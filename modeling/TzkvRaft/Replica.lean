import TzkvRaft.Handlers
import Mathlib.Logic.Relation

/-!
# One replica and its goroutines

A replica is its `Raft` fields together with the goroutines that act on them: `run`, the
`broadcastRequestVote` and `broadcastAppendEntries` goroutines `run` starts, and the
`sendRequestVote` goroutines blocked in `Call`. The replica's inputs are every message a peer
could send, so the model is open: any schedule of a cluster is a schedule of each of its replicas.

Four readings make the model cover more than the code does, so that what holds of all its runs
holds of the code's; a run it exhibits need not be one of the code's. The handlers take `rf.mu`
whenever they run, where the code's `run` keeps it for ever. The channels are buffers, where
`Make` leaves them nil and every send on them blocks. A handler that panics leaves the replica as
it was and the replica goes on, where Go stops the process. And the input `rearm` sends a returned
`run` back to its `switch`, the loop the design asks for, where `Make` starts `run` once: the runs
of the code as written are those without `rearm` (`Node.AsWritten`). `Mutex` models the lock, the
nil channels and the stopped process as the code has them.

Three ghost records are kept for the statements: the votes the replica granted, the vote replies
`sendRequestVote` passed on, with the replica's role and term when each arrived, and the terms in
which the replica became leader.
-/

namespace TzkvRaft

/-- A message on the wire. -/
inductive Msg where
  | requestVote (args : RequestVoteArgs)
  | voteReply (args : RequestVoteArgs) (reply : RequestVoteReply)
  | appendEntries (args : AppendEntriesArgs)
  deriving DecidableEq, Repr

/-- A vote reply `sendRequestVote` passed on to `run`: who sent it, the term of the request it
answers, its vote, and the replica's role and term when it arrived. -/
structure Arrival where
  server : Nat
  term : Int
  vote : Bool
  role : RaftState
  currentTerm : Int
  deriving DecidableEq, Repr

structure Node where
  rf : Raft
  pc : RunPc
  goroutines : List Go
  calls : List (Nat × RequestVoteArgs)
  /-- The `(args.term, args.candidateId)` of every request answered with `vote = true`. -/
  granted : List (Int × Int)
  arrivals : List Arrival
  /-- The terms in which `run` made the replica leader. -/
  elected : List Int
  deriving DecidableEq, Repr

/-- `Make(peers, me, applyCh)`: the new replica, its `run` about to enter the `switch`. -/
def Node.make (peers me : Nat) : Node where
  rf := TzkvRaft.make peers me
  pc := .entry
  goroutines := []
  calls := []
  granted := []
  arrivals := []
  elected := []

/-- What a replica can do next: a step of `run`, a started goroutine running, an inbound RPC from
peer `src`, or the `call`-th blocked `Call` returning `reply`. -/
inductive Input where
  | run
  | select (ready : Ready)
  | rearm
  | go (g : Go)
  | requestVote (src : Nat) (args : RequestVoteArgs)
  | appendEntries (src : Nat) (args : AppendEntriesArgs)
  | reply (call : Nat) (reply : RequestVoteReply)
  deriving DecidableEq, Repr

/-- The inputs that carry a peer's term: the two RPCs and a vote reply. -/
def Input.Inbound : Input → Prop
  | .requestVote _ _ | .appendEntries _ _ | .reply _ _ => True
  | _ => False

/-- The inputs a replica gives itself: a step of `run` or of a goroutine `run` started. -/
def Input.Local : Input → Prop
  | .run | .select _ | .rearm | .go _ => True
  | _ => False

/-- One step of a replica on an input, with the messages it sends; `none` when the input cannot be
taken. It reads the code as the module does: every step takes `rf.mu` as it runs, `heartBeatCh` and
`winElecCh` are buffers, a handler that panics leaves the replica as it was and answers nothing
where Go stops the process, and `rearm` sends `run` back to its `switch`. -/
def Node.step (n : Node) : Input → Option (Node × List (Nat × Msg))
  | .run =>
    if n.pc = .entry then
      some ({ n with rf := (run n.rf).1, pc := (run n.rf).2.2,
                     goroutines := n.goroutines ++ (run n.rf).2.1 }, [])
    else none
  | .select ready =>
    if n.pc = .entry then none
    else (runSelect n.rf n.pc ready).map fun r =>
      ({ n with rf := r.1, pc := .returned, goroutines := n.goroutines ++ r.2,
                elected := if r.1.state = .leader then n.elected ++ [r.1.currentTerm] else n.elected },
        [])
  | .rearm => if n.pc = .returned then some ({ n with pc := .entry }, []) else none
  | .go .broadcastRequestVote =>
    if Go.broadcastRequestVote ∈ n.goroutines then
      match broadcastRequestVote n.rf with
      | .error _ => some ({ n with goroutines := n.goroutines.erase .broadcastRequestVote }, [])
      | .ok calls =>
        some ({ n with goroutines := n.goroutines.erase .broadcastRequestVote,
                       calls := n.calls ++ calls },
          calls.map fun c => (c.1, .requestVote c.2))
    else none
  | .go .broadcastAppendEntries =>
    if Go.broadcastAppendEntries ∈ n.goroutines then
      some ({ n with goroutines := n.goroutines.erase .broadcastAppendEntries },
        (broadcastAppendEntries n.rf).map fun c => (c.1, .appendEntries c.2))
    else none
  | .requestVote src args =>
    match requestVote n.rf args with
    | .error _ => some (n, [])
    | .ok reply =>
      some ({ n with granted :=
                if reply.vote then n.granted ++ [(args.term, args.candidateId)] else n.granted },
        [(src, .voteReply args reply)])
  | .appendEntries _ args => some ({ n with rf := (appendEntries n.rf args).1 }, [])
  | .reply k reply =>
    match n.calls[k]? with
    | none => none
    | some (server, args) =>
      some ({ n with rf := sendRequestVote n.rf reply, calls := n.calls.eraseIdx k,
                     arrivals := n.arrivals ++
                       [⟨server, args.term, reply.vote, n.rf.state, n.rf.currentTerm⟩] }, [])

/-- `n'` follows `n` by one step on some input. -/
def Node.Next (n n' : Node) : Prop :=
  ∃ i out, n.step i = some (n', out)

/-- The replicas some run from `Make` reaches. -/
inductive Node.Reachable : Node → Prop where
  | make (peers me : Nat) : Node.Reachable (Node.make peers me)
  | step {n n' : Node} : Node.Reachable n → Node.Next n n' → Node.Reachable n'

/-! ### The invariant

The log is never written, so it stays the nil slice `Make` leaves. Every `broadcastRequestVote`
then panics on its read of `rf.logs[len(rf.logs)-1]` before it starts a call, so no call waits in
`Call`, nothing is ever sent on `winElecCh`, and `run`'s `select` never takes the case that makes
the replica leader. `RequestVote` panics on the same read whenever it would look at the log, so
it grants nothing.
-/

/-- What holds of every replica a run from `Make` reaches. -/
structure Node.Inv (n : Node) : Prop where
  logs : n.rf.logs = []
  winElecCh : n.rf.winElecCh = []
  notLeader : n.rf.state ≠ .leader
  calls : n.calls = []
  noHeartbeats : Go.broadcastAppendEntries ∉ n.goroutines
  granted : n.granted = []
  arrivals : n.arrivals = []
  elected : n.elected = []

theorem Node.inv_make (peers me : Nat) : (Node.make peers me).Inv where
  logs := rfl
  winElecCh := rfl
  notLeader := nofun
  calls := rfl
  noHeartbeats := nofun
  granted := rfl
  arrivals := rfl
  elected := rfl

section Step

variable {n n' : Node} {i : Input} {out : List (Nat × Msg)}

theorem Node.step_run (h : n.step .run = some (n', out)) :
    n.pc = .entry ∧ out = [] ∧
      n' = { n with rf := (run n.rf).1, pc := (run n.rf).2.2,
                    goroutines := n.goroutines ++ (run n.rf).2.1 } := by
  simp only [Node.step] at h
  split at h <;> cases h
  exact ⟨‹_›, rfl, rfl⟩

theorem Node.step_select {ready : Ready} (h : n.step (.select ready) = some (n', out)) :
    ∃ rf gs, runSelect n.rf n.pc ready = some (rf, gs) ∧ out = [] ∧
      n' = { n with rf, pc := .returned, goroutines := n.goroutines ++ gs,
                    elected := if rf.state = .leader then n.elected ++ [rf.currentTerm] else n.elected } := by
  simp only [Node.step] at h
  split at h
  · cases h
  · obtain ⟨⟨rf, gs⟩, hs, he⟩ := Option.map_eq_some'.mp h
    cases he
    exact ⟨rf, gs, hs, rfl, rfl⟩

theorem Node.step_rearm (h : n.step .rearm = some (n', out)) :
    out = [] ∧ n' = { n with pc := .entry } := by
  simp only [Node.step] at h
  split at h <;> cases h
  exact ⟨rfl, rfl⟩

/-- On the empty log, the `broadcastRequestVote` goroutine panics and only leaves the pool. -/
theorem Node.step_broadcastRequestVote_of_nil (hlogs : n.rf.logs = [])
    (h : n.step (.go .broadcastRequestVote) = some (n', out)) :
    out = [] ∧ n' = { n with goroutines := n.goroutines.erase .broadcastRequestVote } := by
  simp only [Node.step, broadcastRequestVote_of_nil hlogs] at h
  split at h <;> cases h
  exact ⟨rfl, rfl⟩

theorem Node.step_go_rf {g : Go} (h : n.step (.go g) = some (n', out)) : n'.rf = n.rf := by
  cases g <;> simp only [Node.step] at h <;> split at h <;> (try split at h) <;> cases h <;> rfl

theorem Node.step_go_pc {g : Go} (h : n.step (.go g) = some (n', out)) : n'.pc = n.pc := by
  cases g <;> simp only [Node.step] at h <;> split at h <;> (try split at h) <;> cases h <;> rfl

theorem Node.Inv.step (hn : n.Inv) (h : n.step i = some (n', out)) : n'.Inv := by
  cases i with
  | run =>
    obtain ⟨-, -, rfl⟩ := Node.step_run h
    obtain ⟨hstate, hgo⟩ := run_of_ne_leader hn.notLeader
    exact { hn with
      logs := by simpa using hn.logs
      winElecCh := by simpa using hn.winElecCh
      notLeader := hstate ▸ hn.notLeader
      noHeartbeats := by simp [hn.noHeartbeats, hgo] }
  | select ready =>
    obtain ⟨rf, gs, hs, -, rfl⟩ := Node.step_select h
    rcases runSelect_cases hs with
      ⟨_, _, _, _, _, rfl, rfl⟩ | ⟨_, _, _, _, hw, _, _⟩ | ⟨_, _, rfl, rfl⟩ | ⟨_, _, rfl, rfl⟩
    · exact { hn with notLeader := nofun, noHeartbeats := by simpa using hn.noHeartbeats
                      elected := by simpa using hn.elected }
    · simp [hn.winElecCh] at hw
    · exact { hn with noHeartbeats := by simpa using hn.noHeartbeats
                      elected := by simpa [hn.notLeader] using hn.elected }
    · exact { hn with notLeader := nofun, noHeartbeats := by simpa using hn.noHeartbeats
                      elected := by simpa using hn.elected }
  | rearm =>
    obtain ⟨-, rfl⟩ := Node.step_rearm h
    exact { hn with }
  | go g =>
    cases g with
    | broadcastAppendEntries => simp [Node.step, hn.noHeartbeats] at h
    | broadcastRequestVote =>
      obtain ⟨-, rfl⟩ := Node.step_broadcastRequestVote_of_nil hn.logs h
      exact { hn with noHeartbeats := fun hm => hn.noHeartbeats (List.mem_of_mem_erase hm) }
  | requestVote src args =>
    simp only [Node.step] at h
    split at h
    · cases h; exact hn
    · rename_i reply hr
      cases h
      have hvote : reply.vote = false := by
        simpa using mt (requestVote_ok hr).2 (not_not.mpr hn.logs)
      exact { hn with granted := by simp [hvote, hn.granted] }
  | appendEntries src args =>
    cases h
    exact { hn with }
  | reply k r => simp [Node.step, hn.calls] at h

theorem Node.Reachable.inv (h : n.Reachable) : n.Inv := by
  induction h with
  | make peers me => exact Node.inv_make peers me
  | step _ hnext ih =>
    obtain ⟨i, out, hs⟩ := hnext
    exact ih.step hs

/-- `run` and the goroutines it starts send nothing: the one that would, `broadcastRequestVote`,
panics first. -/
theorem Node.Inv.step_local_out (hn : n.Inv) (h : n.step i = some (n', out))
    (hi : i.Local) : out = [] := by
  cases i with
  | run => exact (Node.step_run h).2.1
  | select _ =>
    obtain ⟨_, _, _, hout, -⟩ := Node.step_select h
    exact hout
  | rearm => exact (Node.step_rearm h).1
  | go g =>
    cases g with
    | broadcastAppendEntries => simp [Node.step, hn.noHeartbeats] at h
    | broadcastRequestVote => exact (Node.step_broadcastRequestVote_of_nil hn.logs h).1
  | _ => exact hi.elim

end Step

/-- A run from `Make`: the follower's timer fires, the re-armed `run` enters the CANDIDATE branch
in term `1`, its broadcast panics on the empty log, and so does a RequestVote of term `2`. -/
theorem Node.reachable_candidate :
    Node.Reachable { Node.make 3 0 with
      rf := { TzkvRaft.make 3 0 with currentTerm := 1, state := .candidate }
      pc := .candidateSelect } :=
  .step (.step (.step (.step (.step (.step (.make 3 0) ⟨.run, [], rfl⟩) ⟨.select .timeout, [], rfl⟩)
    ⟨.rearm, [], rfl⟩) ⟨.run, [], rfl⟩) ⟨.go .broadcastRequestVote, [], rfl⟩)
    ⟨.requestVote 1 { term := 2, candidateId := 1 }, [], rfl⟩

/-! ### Votes -/

/-- Every vote the replica granted in a term went to one candidate. -/
def Node.OneVotePerTerm (n : Node) : Prop :=
  ∀ t c c', (t, c) ∈ n.granted → (t, c') ∈ n.granted → c = c'

/-- **One vote per term.** Whatever requests a replica is sent and however its elections go, it
grants at most one candidate per term; it never votes for itself on becoming candidate, so these
are all its votes. -/
theorem oneVotePerTerm {n : Node} (h : n.Reachable) : n.OneVotePerTerm := by
  intro t c c' hc
  simp [h.inv.granted] at hc

theorem oneVotePerTerm_candidate :
    ∃ n : Node, n.Reachable ∧ n.rf.state = .candidate ∧ n.rf.currentTerm = 1 ∧ n.OneVotePerTerm :=
  ⟨_, Node.reachable_candidate, rfl, rfl, oneVotePerTerm Node.reachable_candidate⟩

theorem Node.step_requestVote_of_ok {n : Node} {src : Nat} {args : RequestVoteArgs}
    {reply : RequestVoteReply} (h : requestVote n.rf args = .ok reply) :
    n.step (.requestVote src args) =
      some ({ n with granted := if reply.vote then n.granted ++ [(args.term, args.candidateId)]
                                else n.granted },
        [(src, .voteReply args reply)]) := by
  simp only [Node.step, h]

/-- **Votes are not recorded.** `RequestVote` neither reads nor writes `votedFor`: a replica whose
log holds an entry grants every request of its term or a newer one whose `lastLogIndex` reaches
its own last index, so it votes for two candidates in one term, and its fields stay as they were. -/
theorem Node.grants_twice {n : Node} (hlogs : n.rf.logs ≠ []) {src₁ src₂ : Nat}
    {args₁ args₂ : RequestVoteArgs} (hterm : n.rf.currentTerm ≤ args₁.term)
    (hsame : args₂.term = args₁.term)
    (hidx₁ : (n.rf.logs.getLast hlogs).index ≤ args₁.lastLogIndex)
    (hidx₂ : (n.rf.logs.getLast hlogs).index ≤ args₂.lastLogIndex)
    (hcand : args₁.candidateId ≠ args₂.candidateId) :
    ∃ n₁ n₂ out₁ out₂, n.step (.requestVote src₁ args₁) = some (n₁, out₁) ∧
      n₁.step (.requestVote src₂ args₂) = some (n₂, out₂) ∧ n₂.rf = n.rf ∧
      ¬ n₂.OneVotePerTerm := by
  have hv₁ : requestVote n.rf args₁ = .ok { term := n.rf.currentTerm, vote := true } := by
    rw [requestVote_of_ne_nil (Int.not_lt.mpr hterm) hlogs, decide_eq_true hidx₁]
  have hv₂ : requestVote n.rf args₂ = .ok { term := n.rf.currentTerm, vote := true } := by
    rw [requestVote_of_ne_nil (Int.not_lt.mpr (hsame ▸ hterm)) hlogs, decide_eq_true hidx₂]
  refine ⟨_, _, _, _, Node.step_requestVote_of_ok hv₁, Node.step_requestVote_of_ok hv₂, rfl,
    fun h => hcand (h args₁.term _ _ ?_ ?_)⟩ <;> simp [hsame]

theorem Node.grants_twice_make :
    let n : Node := { Node.make 3 0 with rf := { TzkvRaft.make 3 0 with logs := [⟨1, 1, ""⟩] } }
    ∃ n₁ n₂ out₁ out₂,
      n.step (.requestVote 1 { term := 1, candidateId := 1, lastLogIndex := 1 }) = some (n₁, out₁) ∧
      n₁.step (.requestVote 2 { term := 1, candidateId := 2, lastLogIndex := 1 }) = some (n₂, out₂) ∧
      n₂.rf = n.rf ∧ ¬ n₂.OneVotePerTerm := by
  intro n
  exact @Node.grants_twice n nofun _ _ _ _ (by decide) rfl (by decide) (by decide) (by decide)

/-! ### Terms -/

/-- `rf'` has `rf`'s role, term, vote and log. -/
def Raft.Agrees (rf rf' : Raft) : Prop :=
  rf'.state = rf.state ∧ rf'.currentTerm = rf.currentTerm ∧ rf'.votedFor = rf.votedFor ∧
    rf'.logs = rf.logs

section Terms

variable {n n' : Node} {i : Input} {out : List (Nat × Msg)}

/-- An inbound RPC or vote reply changes neither the role, term, vote nor log, nor moves `run` or
starts a goroutine. -/
theorem Node.step_inbound (h : n.step i = some (n', out)) (hi : i.Inbound) :
    n.rf.Agrees n'.rf ∧ n'.pc = n.pc ∧ n'.goroutines = n.goroutines := by
  cases i with
  | requestVote _ _ | reply _ _ =>
    simp only [Node.step] at h
    split at h <;> cases h <;> exact ⟨⟨rfl, rfl, rfl, rfl⟩, rfl, rfl⟩
  | appendEntries _ _ => cases h; exact ⟨⟨rfl, rfl, rfl, rfl⟩, rfl, rfl⟩
  | _ => exact hi.elim

/-- Only a candidate's `run` moves the term. -/
theorem Node.step_currentTerm_of_ne_candidate (hc : n.rf.state ≠ .candidate)
    (h : n.step i = some (n', out)) : n'.rf.currentTerm = n.rf.currentTerm := by
  cases i with
  | run =>
    obtain ⟨-, -, rfl⟩ := Node.step_run h
    exact run_currentTerm_of_ne_candidate hc
  | select ready =>
    obtain ⟨rf, gs, hs, -, rfl⟩ := Node.step_select h
    exact (runSelect_logs_currentTerm hs).2
  | rearm =>
    obtain ⟨-, rfl⟩ := Node.step_rearm h
    rfl
  | go g => rw [Node.step_go_rf h]
  | requestVote _ _ | appendEntries _ _ | reply _ _ => exact (Node.step_inbound h trivial).1.2.1

/-- **The log is never written.** No step of a replica, from any state, appends to, truncates or
overwrites its log. -/
theorem Node.step_logs (h : n.step i = some (n', out)) : n'.rf.logs = n.rf.logs := by
  cases i with
  | run =>
    obtain ⟨-, -, rfl⟩ := Node.step_run h
    exact run_logs n.rf
  | select ready =>
    obtain ⟨rf, gs, hs, -, rfl⟩ := Node.step_select h
    exact (runSelect_logs_currentTerm hs).1
  | rearm =>
    obtain ⟨-, rfl⟩ := Node.step_rearm h
    rfl
  | go g => rw [Node.step_go_rf h]
  | requestVote _ _ | appendEntries _ _ | reply _ _ => exact (Node.step_inbound h trivial).1.2.2.2

/-- An AppendEntries carrying an entry leaves a new replica's log empty. -/
theorem Node.step_logs_appendEntries :
    ∃ n', (Node.make 3 0).step (.appendEntries 1 { term := 1, entries := [⟨1, 1, "x"⟩] }) =
      some (n', []) ∧ n'.rf.logs = [] :=
  ⟨_, rfl, Node.step_logs (show (Node.make 3 0).step
    (.appendEntries 1 { term := 1, entries := [⟨1, 1, "x"⟩] }) = some (_, []) from rfl)⟩

end Terms

/-! ### Promotion -/

/-- A strict majority of the `peers` replicas, distinct, answered the replica's term-`t` requests
with a vote, each reply arriving while it was candidate in term `t`. -/
def Node.MajorityFor (n : Node) (t : Int) : Prop :=
  ∃ voters : List Nat, voters.Nodup ∧ n.rf.peers < 2 * voters.length ∧
    ∀ v ∈ voters, v < n.rf.peers ∧ (⟨v, t, true, .candidate, t⟩ : Arrival) ∈ n.arrivals

/-- If the step from `n` to `n'` makes the replica leader, it was candidate, it keeps its term,
and a majority of that term's votes had arrived. -/
def Node.PromotionBacked (n n' : Node) : Prop :=
  n.rf.state ≠ .leader → n'.rf.state = .leader →
    n.rf.state = .candidate ∧ n'.rf.currentTerm = n.rf.currentTerm ∧
      n.MajorityFor n.rf.currentTerm

/-- **Majority rule.** No step of a run makes a replica leader without a majority of its term's
votes. -/
theorem promotionBacked {n n' : Node} {i : Input} {out : List (Nat × Msg)} (h : n.Reachable)
    (hs : n.step i = some (n', out)) : n.PromotionBacked n' :=
  fun _ hl => absurd hl (h.inv.step hs).notLeader

theorem promotionBacked_candidate :
    ∃ n n' : Node, n.Reachable ∧ n.rf.state = .candidate ∧
      n.step (.select .timeout) = some (n', []) ∧ n.PromotionBacked n' :=
  ⟨_, _, Node.reachable_candidate, rfl, rfl,
    promotionBacked Node.reachable_candidate (show Node.step _ (.select .timeout) = some (_, []) from rfl)⟩

/-- **How the code promotes.** The one step that makes a replica leader is `run`'s CANDIDATE
`select` taking a value from `winElecCh`: any value, a refusal or a lost call's zero reply as well
as a vote, and the first one to come. -/
theorem Node.step_becomesLeader {n n' : Node} {i : Input} {out : List (Nat × Msg)}
    (h : n.step i = some (n', out)) (hn : n.rf.state ≠ .leader) (hn' : n'.rf.state = .leader) :
    i = .select .winElec ∧ n.pc = .candidateSelect ∧ ∃ v rest, n.rf.winElecCh = v :: rest := by
  cases i with
  | run =>
    obtain ⟨-, -, rfl⟩ := Node.step_run h
    exact absurd ((run_of_ne_leader hn).1 ▸ hn') hn
  | select ready =>
    obtain ⟨rf, gs, hs, -, rfl⟩ := Node.step_select h
    rcases runSelect_cases hs with
      ⟨-, -, _, _, _, rfl, -⟩ | ⟨hpc, rfl, v, rest, hw, -, -⟩ | ⟨-, -, rfl, -⟩ | ⟨-, -, rfl, -⟩
    · cases hn'
    · exact ⟨rfl, hpc, v, rest, hw⟩
    · exact absurd hn' hn
    · cases hn'
  | rearm =>
    obtain ⟨-, rfl⟩ := Node.step_rearm h
    exact absurd hn' hn
  | go g => exact absurd (Node.step_go_rf h ▸ hn') hn
  | requestVote _ _ | appendEntries _ _ | reply _ _ =>
    exact absurd ((Node.step_inbound h trivial).1.1 ▸ hn') hn

/-- A candidate waiting in its `select` becomes leader on a single `false` from `winElecCh`. -/
theorem Node.step_becomesLeader_on_refusal :
    let n : Node := { Node.make 3 0 with
      rf := { TzkvRaft.make 3 0 with state := .candidate, winElecCh := [false] }
      pc := .candidateSelect }
    ∃ n', n.step (.select .winElec) = some (n', []) ∧ n'.rf.state = .leader ∧
      n.pc = .candidateSelect ∧ ∃ v rest, n.rf.winElecCh = v :: rest := by
  intro n
  exact ⟨_, rfl, rfl,
    (Node.step_becomesLeader (show n.step (.select .winElec) = some (_, []) from rfl) nofun rfl).2⟩

/-! ### The log -/

/-- In every replica a run reaches, the log is the nil slice: `RequestVote` refuses a request of
an older term and panics on any other, and every `broadcastRequestVote` panics. -/
theorem reachable_lastLogRead_panics {n : Node} (h : n.Reachable) :
    n.rf.logs = [] ∧
    (∀ args, requestVote n.rf args =
      if args.term < n.rf.currentTerm then .ok { term := n.rf.currentTerm, vote := false }
      else .error (.indexOutOfRange (-1) 0)) ∧
    broadcastRequestVote n.rf = .error (.indexOutOfRange (-1) 0) := by
  have hlogs := h.inv.logs
  refine ⟨hlogs, fun args => ?_, broadcastRequestVote_of_nil hlogs⟩
  split
  · exact requestVote_of_lt ‹_›
  · exact requestVote_of_nil ‹_› hlogs

/-- The same after a first election has begun: `Make`, the follower's timeout, and a re-armed
`run`'s CANDIDATE branch moving to term `1`. -/
theorem reachable_lastLogRead_panics_candidate :
    ∃ n : Node, n.Reachable ∧ n.rf.state = .candidate ∧ n.rf.currentTerm = 1 ∧
      n.rf.logs = [] ∧
      (∀ args, requestVote n.rf args =
        if args.term < n.rf.currentTerm then .ok { term := n.rf.currentTerm, vote := false }
        else .error (.indexOutOfRange (-1) 0)) ∧
      broadcastRequestVote n.rf = .error (.indexOutOfRange (-1) 0) := by
  have h : Node.Reachable _ :=
    .step (.step (.step (.step (.make 3 0) ⟨.run, [], rfl⟩) ⟨.select .timeout, [], rfl⟩)
      ⟨.rearm, [], rfl⟩) ⟨.run, [], rfl⟩
  exact ⟨_, h, rfl, rfl, reachable_lastLogRead_panics h⟩

/-- A replica just made reads its log at position `-1`, in `RequestVote` and in
`broadcastRequestVote` alike. -/
theorem make_lastLogRead_panics :
    (Node.make 3 0).rf.logs = [] ∧
    requestVote (TzkvRaft.make 3 0) { term := 0 } = .error (.indexOutOfRange (-1) 0) ∧
    broadcastRequestVote (TzkvRaft.make 3 0) = .error (.indexOutOfRange (-1) 0) :=
  ⟨rfl, rfl, rfl⟩

end TzkvRaft
