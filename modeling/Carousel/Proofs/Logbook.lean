/-
# The log of a schedule

Along a schedule the clients of a pool make their requests to one deployment. The log
lists what was asked and answered, in order, and by whom. It decides nothing: it is there
so that the requests of one client can be told from those of the others, and what came
before a request from what came after it.

Only loading a script and unloading all scripts change which scripts the store knows. So
the log tells whether a script is known at some moment: scripts have been unloaded, and
nothing has been loaded since, or not.
-/

import Carousel.Proofs.Schedules
import Carousel.Proofs.Stages

namespace Carousel

/-! ## Programs and their exchanges -/

namespace Exchange

/-- The exchange unloads all scripts. -/
def flushes : Exchange → Bool
  | ⟨.store .flush, _⟩ => true
  | _ => false

/-- The exchange loads a script, or tries to. -/
def loads : Exchange → Bool
  | ⟨.store (.load _), _⟩ => true
  | _ => false

end Exchange

/-- The exchanges bring a client from the start of its program to what is then left of
it. -/
inductive Deployment.Brings {α : Type} (start : Deployment.Client α) :
    List Exchange → Deployment.Client α → Prop
  | nowhere : Brings start [] start
  | on {exchanges : List Exchange} {request : Deployment.Request}
    {next : request.Answer → Deployment.Client α}
    (brings : Brings start exchanges (.ask request next)) (answer : request.Answer) :
    Brings start (exchanges ++ [⟨request, .returned answer⟩]) (next answer)

/-- Each exchange of an advance brings the client from one stage to the next. -/
theorem Deployment.Brings.makes {executor : Nat} {handle : Cycle} {before after : Deployment}
    {stage later : Stage} {exchange : Exchange} {exchanges : List Exchange}
    {start : Deployment.Client (Except Fault (Option String))}
    (brings : Brings start exchanges (Stage.program executor handle .done stage))
    (makes : Stage.Makes executor handle before stage exchange later after) :
    Brings start (exchanges ++ [exchange]) (Stage.program executor handle .done later) := by
  obtain ⟨rest, asks, given⟩ := makes.carries .done
  obtain ⟨request, ending⟩ := exchange
  rw [asks] at brings
  cases ending with
  | panicked message => cases given
  | returned answer =>
    have same := Ending.returned.inj given
    rw [← same]
    exact brings.on answer

/-! ## The log -/

/-- A line of a log: how many requests had been served before, the client that made this
one, and the exchange. -/
structure Line where
  time : Nat
  client : Nat
  exchange : Exchange

/-- The line that comes next in a log. -/
abbrev Line.next (log : List Line) (client : Nat) (exchange : Exchange) : Line :=
  ⟨log.length, client, exchange⟩

namespace Pool

variable {α : Type}

/-- The exchange that naming a client leads to, if it makes one. -/
def exchange? (pool : Pool Deployment.interface α Deployment) (index : Nat) :
    Option Exchange :=
  pool.clients[index]?.bind pool.state.exchange?

/-- What is served along a schedule, after so many requests. -/
def log (pool : Pool Deployment.interface α Deployment) (served : Nat) :
    List Nat → List Line
  | [] => []
  | index :: rest =>
    let after := pool.step Deployment.serve index
    match pool.exchange? index with
    | none => after.log served rest
    | some exchange => ⟨served, index, exchange⟩ :: after.log (served + 1) rest

/-- Naming a client that makes no request does nothing. -/
theorem step_of_exchange?_eq_none {pool : Pool Deployment.interface α Deployment}
    {index : Nat} (idle : pool.exchange? index = none) :
    pool.step Deployment.serve index = pool := by
  rcases step_cases Deployment.serve pool index with same | ⟨query, next, found, _⟩
  · exact same
  · rw [exchange?, found] at idle
    cases idle

/-- What every request keeps of the clients and of the log, every schedule keeps. -/
theorem log_keeps {property : Pool Deployment.interface α Deployment → List Line → Prop}
    (keeps : ∀ pool log index exchange, property pool log →
      pool.exchange? index = some exchange →
        property (pool.step Deployment.serve index)
          (log ++ [.next log index exchange]))
    {pool : Pool Deployment.interface α Deployment} {past : List Line}
    (holds : property pool past) (schedule : List Nat) :
    property (pool.run Deployment.serve schedule)
      (past ++ pool.log past.length schedule) := by
  induction schedule generalizing pool past with
  | nil =>
    rw [log, List.append_nil]
    exact holds
  | cons index rest ih =>
    rw [log]
    cases asked : pool.exchange? index with
    | none =>
      have same := step_of_exchange?_eq_none asked
      have final := ih holds
      rw [← same] at final
      exact same ▸ final
    | some exchange =>
      have final := ih (keeps pool past index exchange holds asked)
      rw [List.length_append, List.length_singleton, List.append_assoc] at final
      exact final

end Pool

/-! ## What a log tells -/

namespace Line

/-- The requests that a client has made, but for unloadings. -/
def requestsOf (client : Nat) (log : List Line) : List Line :=
  log.filter fun line => line.client = client && !line.exchange.flushes

/-- Scripts were unloaded between the two moments, and none has been loaded again by the
second one. -/
def Unloaded (log : List Line) (since now : Nat) : Prop :=
  ∃ flush ∈ log, flush.exchange.flushes = true ∧ since ≤ flush.time ∧ flush.time < now ∧
    ∀ line ∈ log, flush.time < line.time → line.time < now → line.exchange.loads = false

section

variable {log : List Line} {line : Line} {client since now : Nat}

theorem mem_of_mem_requestsOf (listed : line ∈ requestsOf client log) : line ∈ log :=
  (List.mem_filter.mp listed).1

/-- A request of somebody else, or an unloading, is none of the client's requests. -/
theorem requestsOf_concat (none : ¬ (line.client = client ∧ line.exchange.flushes = false)) :
    requestsOf client (log ++ [line]) = requestsOf client log := by
  rw [requestsOf, List.filter_append, List.filter_cons_of_neg (by simpa using none),
    List.filter_nil, List.append_nil]
  rfl

theorem requestsOf_next {exchange : Exchange} (quiet : exchange.flushes = false) :
    requestsOf client (log ++ [.next log client exchange]) =
      requestsOf client log ++ [.next log client exchange] := by
  rw [requestsOf, List.filter_append, List.filter_cons_of_pos (by simp [quiet]),
    List.filter_nil]
  rfl

/-- The lines of the log are in order, and the next one will come after all of them. -/
structure Ordered (log : List Line) : Prop where
  ascending : log.Pairwise fun earlier later => earlier.time < later.time
  past : ∀ line ∈ log, line.time < log.length

theorem ordered_nil : Ordered [] where
  ascending := .nil
  past := List.forall_mem_nil _

theorem Ordered.concat (ordered : Ordered log) (client : Nat) (exchange : Exchange) :
    Ordered (log ++ [.next log client exchange]) where
  ascending := by
    refine List.pairwise_append.mpr
      ⟨ordered.ascending, List.pairwise_singleton _ _, ?_⟩
    intro line old next new
    rw [List.mem_singleton.mp new]
    exact ordered.past line old
  past := by
    intro line listed
    rw [List.length_append, List.length_singleton]
    rcases List.mem_append.mp listed with old | new
    · exact Nat.lt_succ_of_lt (ordered.past line old)
    · rw [List.mem_singleton.mp new]
      exact Nat.lt_succ_self _

theorem Unloaded.zero (unloaded : Unloaded log since now) : Unloaded log 0 now := by
  obtain ⟨flush, listed, flushes, _, early, kept⟩ := unloaded
  exact ⟨flush, listed, flushes, Nat.zero_le _, early, kept⟩

/-- What is served later does not change what the scripts were like before. -/
theorem unloaded_concat_iff (late : now ≤ line.time) :
    Unloaded (log ++ [line]) since now ↔ Unloaded log since now := by
  constructor
  · rintro ⟨flush, listed, flushes, later, early, kept⟩
    rcases List.mem_append.mp listed with old | new
    · exact ⟨flush, old, flushes, later, early,
        fun other among => kept other (List.mem_append_left _ among)⟩
    · rw [List.mem_singleton.mp new] at early
      omega
  · rintro ⟨flush, listed, flushes, later, early, kept⟩
    refine ⟨flush, List.mem_append_left _ listed, flushes, later, early, ?_⟩
    intro other among after before
    rcases List.mem_append.mp among with old | new
    · exact kept other old after before
    · rw [List.mem_singleton.mp new] at before
      omega

/-- Only loading a script and unloading all of them make a difference. -/
theorem unloaded_succ_iff (past : ∀ other ∈ log, other.time < line.time)
    (quiet : line.exchange.flushes = false) (loads : line.exchange.loads = false) :
    Unloaded (log ++ [line]) since (line.time + 1) ↔ Unloaded log since line.time := by
  constructor
  · rintro ⟨flush, listed, flushes, later, early, kept⟩
    rcases List.mem_append.mp listed with old | new
    · refine ⟨flush, old, flushes, later, past flush old, ?_⟩
      intro other among after before
      exact kept other (List.mem_append_left _ among) after (by omega)
    · rw [List.mem_singleton.mp new, quiet] at flushes
      cases flushes
  · rintro ⟨flush, listed, flushes, later, early, kept⟩
    refine ⟨flush, List.mem_append_left _ listed, flushes, later, by omega, ?_⟩
    intro other among after before
    rcases List.mem_append.mp among with old | new
    · exact kept other old after (past other old)
    · rw [List.mem_singleton.mp new]
      exact loads

theorem unloaded_of_flushes (flushes : line.exchange.flushes = true)
    (early : since ≤ line.time) : Unloaded (log ++ [line]) since (line.time + 1) := by
  refine ⟨line, List.mem_append_right _ List.mem_cons_self, flushes, early, by omega, ?_⟩
  intro other among after before
  omega

theorem not_unloaded_of_loads (past : ∀ other ∈ log, other.time < line.time)
    (quiet : line.exchange.flushes = false) (loads : line.exchange.loads = true) :
    ¬ Unloaded (log ++ [line]) since (line.time + 1) := by
  rintro ⟨flush, listed, flushes, later, early, kept⟩
  rcases List.mem_append.mp listed with old | new
  · have lost := kept line (List.mem_append_right _ List.mem_cons_self) (past flush old)
      (Nat.lt_succ_self _)
    rw [loads] at lost
    cases lost
  · rw [List.mem_singleton.mp new, quiet] at flushes
    cases flushes

end

end Line

end Carousel
