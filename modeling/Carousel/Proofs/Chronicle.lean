/-
# What the log of the cycle phase tells

The requests of a worker, as the log of a schedule lists them, are those of its advances,
one advance after the other. Each advance gives out an element, unless the store did not
know the script both times that it was to be run. The log tells how that came about:
scripts had been unloaded before the first run, with nobody loading the script again, and
were unloaded once more between the worker's own loading of the script and its second run.
An advance that meets this is the last one of its worker.

The invariant is one account for each worker, of the advances that it has finished and of
the requests of the advance that it is in the middle of. All else is a matter of whether
the script is loaded, and of that the log and the store tell the same.
-/

import Carousel.Proofs.Crew

namespace Carousel

namespace Stress

namespace CyclePhase

open Line (Unloaded requestsOf)

/-! ## Advances in a log -/

/-- The exchange in which a worker loads the script. -/
abbrev registered : Exchange :=
  ⟨.store (.load Script.bundled.body), .returned (.ok Script.bundledDigest)⟩

/-- The lines are the requests of an advance that gives out an element. -/
def HandsOut (advance : List Line) (element : String) : Prop :=
  Deployment.Brings (Deployment.operate executor cycle.next)
    (advance.map Line.exchange) (.done (.ok (some element)))

/-- A run of the script that the store did not know: scripts had been unloaded since the
moment, and not been loaded again. -/
structure Misses (log : List Line) (since : Nat) (run : Line) : Prop where
  exchange_eq : run.exchange = missed
  unloaded : Unloaded log since run.time

/-- The lines are the requests of an advance that is refused. Scripts were unloaded before
each of its two runs, the second time after it had loaded the script itself. -/
inductive Refused (log : List Line) : List Line → Prop
  | twice {opening rest : List Line} {first reload second : Line}
    (ends : Deployment.Brings (Deployment.operate executor cycle.next)
      ((opening ++ first :: reload :: rest ++ [second]).map Line.exchange)
      (.done (.error (.store (.noScript Script.bundledDigest)))))
    (misses : Misses log 0 first) (reloads : reload.exchange = registered)
    (missesAgain : Misses log reload.time second) :
    Refused log (opening ++ first :: reload :: rest ++ [second])

/-- What becomes of a worker, as the log tells it: all its advances have given out
elements of the cycle, or all but the last one, and that one was refused. -/
inductive Recounts (plan : Plan) (log : List Line) (worker : Nat) : Ending WorkerEnd → Prop
  | finished {advances : List (List Line)} (tally : Tally)
    (requests : requestsOf worker log = advances.flatten)
    (all : advances.length = plan.calls.toNat)
    (given : ∀ advance ∈ advances, ∃ element ∈ elements plan, HandsOut advance element) :
    Recounts plan log worker (.returned (.returned (.ok tally)))
  | refused {advances : List (List Line)} {last : List Line}
    (requests : requestsOf worker log = advances.flatten ++ last)
    (fewer : advances.length < plan.calls.toNat)
    (given : ∀ advance ∈ advances, ∃ element ∈ elements plan, HandsOut advance element)
    (refused : Refused log last) :
    Recounts plan log worker (.returned (.returned (.error refusal)))

/-- What a run of the script comes to: it gives out an element of the cycle, unless
scripts have been unloaded and not been loaded again. -/
def Answered (plan : Plan) (log : List Line) (run : Line) : Prop :=
  (∃ element ∈ elements plan, run.exchange = handed element) ∧ ¬ Unloaded log 0 run.time ∨
    Misses log 0 run

/-- What the log of a whole phase tells: its lines are in order, each run of the script
comes to what it must, and each worker ends as its advances say. -/
structure Told (plan : Plan) (log : List Line) (endings : List (Ending WorkerEnd)) :
    Prop where
  ordered : log.Pairwise fun earlier later => earlier.time < later.time
  runs : ∀ run ∈ log, run.exchange.request = Stage.evaluation cycle → Answered plan log run
  workers : ∀ (worker : Nat) (ending : Ending WorkerEnd), endings[worker]? = some ending →
    Recounts plan log worker ending

/-! ## Whether the script is loaded -/

/-- The script is loaded, or scripts have been unloaded since the moment. -/
def Ready (state : Deployment) (log : List Line) (since : Nat) : Prop :=
  HasScript state ∨ Unloaded log since log.length

/-- An executor has noted the script only after it was loaded. -/
def Noted (state : Deployment) (log : List Line) : Prop :=
  ∀ digest, (state.cache executor).get? Script.bundledName = some digest →
    Ready state log 0

/-- What a request does to the script that is loaded. -/
inductive Affects (before after : Deployment) (exchange : Exchange) : Prop
  | loads (loads : exchange.loads = true) (quiet : exchange.flushes = false)
    (there : HasScript after)
  | flushes (flushes : exchange.flushes = true) (gone : ¬ HasScript after)
  | keeps (loads : exchange.loads = false) (quiet : exchange.flushes = false)
    (same : HasScript after ↔ HasScript before)

section

variable {plan : Plan} {worker : Nat} {wheel : Wheel} {before after : Deployment}
  {shift later : Shift} {exchange : Exchange} {log : List Line} {line : Line} {since : Nat}

theorem Works.affects (works : Works plan worker wheel before shift (some exchange) later after) :
    Affects before after exchange := by
  cases works with
  | refused | takes | takesLast => exact .keeps rfl rfl Iff.rfl
  | flushes => exact .flushes rfl Bool.false_ne_true
  | goes leads pending =>
    cases leads with
    | loaded | reloaded =>
      exact .loads rfl rfl (List.contains_iff_mem.mpr List.mem_insert_self)
    | loadFailed => exact absurd rfl (pending _)
    | _ => exact .keeps rfl rfl Iff.rfl

/-- One more request keeps the account of the script. -/
theorem Ready.concat (ready : Ready before log since) (early : since ≤ log.length)
    (affects : Affects before after line.exchange) (time : line.time = log.length)
    (past : ∀ other ∈ log, other.time < line.time) :
    Ready after (log ++ [line]) since := by
  rw [Ready, List.length_append, List.length_singleton, ← time]
  cases affects with
  | loads _ _ there => exact .inl there
  | flushes flushes _ => exact .inr (Line.unloaded_of_flushes flushes (time ▸ early))
  | keeps loads quiet same =>
    rw [Line.unloaded_succ_iff past quiet loads, time]
    exact ready.imp_left same.mpr

theorem Ready.unloaded (ready : Ready before log since) (none : ¬ HasScript before) :
    Unloaded log since log.length :=
  ready.resolve_left none

theorem Ready.zero (ready : Ready before log since) : Ready before log 0 :=
  ready.imp_right Unloaded.zero

theorem Misses.concat {run : Line} (misses : Misses log since run)
    (late : run.time ≤ line.time) : Misses (log ++ [line]) since run where
  exchange_eq := misses.exchange_eq
  unloaded := (Line.unloaded_concat_iff late).mpr misses.unloaded

theorem Refused.concat {advance : List Line} (refused : Refused log advance)
    (late : ∀ request ∈ advance, request.time ≤ line.time) :
    Refused (log ++ [line]) advance := by
  cases refused with
  | twice ends misses reloads missesAgain =>
    refine .twice ends (misses.concat ?_) reloads (missesAgain.concat ?_)
    · exact late _ (by simp)
    · exact late _ (by simp)

theorem Answered.concat {run : Line} (answered : Answered plan log run)
    (late : run.time ≤ line.time) : Answered plan (log ++ [line]) run := by
  rw [Answered, Line.unloaded_concat_iff late]
  exact answered.imp_right fun misses => misses.concat late

end

/-! ## The accounts of the workers -/

/-- What the requests of an advance tell of the stage that it has come to. -/
def Tracks (state : Deployment) (log : List Line) : Stage → List Line → Prop
  | .noting, _ | .running, _ => Ready state log 0
  | .reloading, current =>
    ∃ opening first, current = opening ++ [first] ∧ Misses log 0 first
  | .renoting, current | .rerunning, current =>
    ∃ opening first reload rest, current = opening ++ first :: reload :: rest ∧
      Misses log 0 first ∧ reload.exchange = registered ∧ Ready state log reload.time
  | _, _ => True

/-- The requests that a worker has made on its shift since its last advance but one. -/
def Shift.Tells (state : Deployment) (log : List Line) : Shift → List Line → Prop
  | advancing stage _ _ _, current =>
    Deployment.Brings (Deployment.operate executor cycle.next)
      (current.map Line.exchange) (Stage.program executor cycle .done stage) ∧
      Tracks state log stage current
  | flushing _ _ _, current => current = []
  | finished _, current => current = []
  | failed _ _, current => Refused log current

/-- The account of a worker on a shift: the advances that gave out elements, and the
requests that it has made since. -/
structure Account (plan : Plan) (state : Deployment) (log : List Line) (worker : Nat)
    (shift : Shift) (advances : List (List Line)) (current : List Line) : Prop where
  requests : requestsOf worker log = advances.flatten ++ current
  taken : advances.length = shift.taken plan.calls.toNat
  given : ∀ advance ∈ advances, ∃ element ∈ elements plan, HandsOut advance element
  tells : shift.Tells state log current

section

variable {plan : Plan} {worker : Nat} {wheel : Wheel} {before after : Deployment}
  {shift later : Shift} {exchange : Exchange} {log : List Line} {line : Line}
  {stage following : Stage} {advances : List (List Line)} {current : List Line}

theorem Account.mem_log (account : Account plan before log worker shift advances current)
    {request : Line} (listed : request ∈ current) : request ∈ log := by
  have among : request ∈ requestsOf worker log := by
    rw [account.requests]
    exact List.mem_append_right _ listed
  exact Line.mem_of_mem_requestsOf among

/-- What a stage tells is not changed by what others ask for meanwhile. -/
theorem Tracks.concat (tracks : Tracks before log stage current)
    (early : ∀ request ∈ current, request.time ≤ log.length)
    (affects : Affects before after line.exchange) (time : line.time = log.length)
    (past : ∀ other ∈ log, other.time < line.time) :
    Tracks after (log ++ [line]) stage current := by
  cases stage with
  | noting | running => exact Ready.concat tracks (Nat.zero_le _) affects time past
  | reloading =>
    obtain ⟨opening, first, rfl, misses⟩ := tracks
    exact ⟨opening, first, rfl, misses.concat (time ▸ early first (by simp))⟩
  | renoting | rerunning =>
    obtain ⟨opening, first, reload, rest, rfl, misses, reloads, ready⟩ := tracks
    exact ⟨opening, first, reload, rest, rfl, misses.concat (time ▸ early first (by simp)),
      reloads, ready.concat (early reload (by simp)) affects time past⟩
  | _ => trivial

/-- A worker that has loaded the script again finds it, unless scripts were unloaded. -/
theorem Tracks.ready_of_reloaded (tracks : Tracks before log .rerunning current) :
    Ready before log 0 := by
  obtain ⟨_, _, _, _, _, _, _, ready⟩ := tracks
  exact ready.zero

/-- The account of a worker stays as it is while others go on. -/
theorem Account.concat (account : Account plan before log worker shift advances current)
    (other : line.client ≠ worker) (affects : Affects before after line.exchange)
    (time : line.time = log.length) (past : ∀ other ∈ log, other.time < line.time) :
    Account plan after (log ++ [line]) worker shift advances current where
  requests := by
    rw [Line.requestsOf_concat fun own => other own.1]
    exact account.requests
  taken := account.taken
  given := account.given
  tells := by
    have late : ∀ request ∈ current, request.time ≤ line.time :=
      fun request listed => (past request (account.mem_log listed)).le
    have tells := account.tells
    cases shift with
    | advancing stage remaining call tally =>
      exact ⟨tells.1, tells.2.concat (time ▸ late) affects time past⟩
    | failed call tally => exact Refused.concat tells late
    | flushing remaining call tally => exact tells
    | finished tally => exact tells

/-- A request that takes an advance to its next stage is told as that. -/
theorem Tracks.leads (tracks : Tracks before log stage current)
    (early : ∀ request ∈ current, request.time ≤ log.length)
    (leads : Stage.Leads executor cycle (some wheel) before stage exchange following after)
    (pending : ∀ result, following ≠ .settled result)
    (affects : Affects before after exchange)
    (past : ∀ other ∈ log, other.time < log.length)
    (noted : Noted before log) :
    Tracks after (log ++ [.next log worker exchange]) following
      (current ++ [.next log worker exchange]) := by
  have loads : HasScript before.withBundled :=
    List.contains_iff_mem.mpr List.mem_insert_self
  cases leads with
  | found | unknown => trivial
  | known same => exact (noted _ same).concat (Nat.zero_le _) affects rfl past
  | loaded => exact .inl loads
  | noted => exact Ready.concat tracks (Nat.zero_le _) affects rfl past
  | refused up unloaded =>
    refine ⟨current, _, rfl, rfl, ?_⟩
    exact (Line.unloaded_concat_iff (Nat.le_refl _)).mpr (Ready.unloaded tracks unloaded)
  | reloaded =>
    obtain ⟨opening, first, rfl, misses⟩ := tracks
    refine ⟨opening, first, _, [], List.append_assoc .., ?_, rfl, .inl loads⟩
    exact misses.concat (early first (by simp))
  | renoted =>
    obtain ⟨opening, first, reload, rest, rfl, misses, reloads, ready⟩ := tracks
    refine ⟨opening, first, reload, rest ++ [_], List.append_assoc .., ?_, reloads, ?_⟩
    · exact misses.concat (early first (by simp))
    · exact ready.concat (early reload (by simp)) affects rfl past
  | _ => exact absurd rfl (pending _)

theorem quiet_of_leads
    (leads : Stage.Leads executor cycle (some wheel) before stage exchange following after) :
    exchange.flushes = false := by
  cases leads with
  | _ => rfl

/-- The request that gives out an element completes an advance. -/
theorem Account.handing {remaining : Nat} {call : UInt64} {tally : Tally}
    (account : Account plan before log worker (.advancing stage remaining call tally)
      advances current)
    (positive : 1 ≤ call.toNat) (listed : wheel.current ∈ elements plan)
    (makes : Stage.Makes executor cycle before stage (handed wheel.current)
      (.settled (.ok wheel.current)) after) :
    ∃ more : List (List Line),
      requestsOf worker (log ++ [.next log worker (handed wheel.current)]) = more.flatten ∧
      more.length = call.toNat ∧
      ∀ advance ∈ more, ∃ element ∈ elements plan, HandsOut advance element := by
  have ends : HandsOut (current ++ [.next log worker (handed wheel.current)])
      wheel.current := by
    rw [HandsOut, List.map_append]
    exact account.tells.1.makes makes
  refine ⟨advances ++ [current ++ [.next log worker (handed wheel.current)]], ?_, ?_, ?_⟩
  · rw [Line.requestsOf_next rfl, account.requests, List.flatten_append,
      List.flatten_singleton, List.append_assoc]
  · rw [List.length_append, List.length_singleton, account.taken, Shift.taken]
    omega
  · intro advance among
    rcases List.mem_append.mp among with old | new
    · exact account.given advance old
    · rw [List.mem_singleton.mp new]
      exact ⟨_, listed, ends⟩

/-- A worker that has completed its advances so far starts another one, or has finished. -/
theorem account_next {remaining : Nat} {call : UInt64} {tally : Tally}
    (total : call.toNat + remaining = plan.calls.toNat)
    (requests : requestsOf worker log = advances.flatten)
    (length : advances.length = call.toNat)
    (given : ∀ advance ∈ advances, ∃ element ∈ elements plan, HandsOut advance element) :
    Account plan before log worker (.next remaining call tally) advances [] where
  requests := by
    rw [List.append_nil]
    exact requests
  taken := by
    rw [Shift.taken_next total]
    exact length
  given := given
  tells := by
    cases remaining with
    | zero => rfl
    | succ remaining =>
      refine ⟨?_, trivial⟩
      rw [Stage.program, Program.bind_done]
      exact .nowhere

/-- The request of a worker is told by its account. -/
theorem Works.exists_account
    (works : Works plan worker wheel before shift (some exchange) later after)
    (account : Account plan before log worker shift advances current)
    (fits : shift.Fits plan worker) (listed : wheel.current ∈ elements plan)
    (past : ∀ other ∈ log, other.time < log.length)
    (noted : Noted before log) :
    ∃ more rest,
      Account plan after (log ++ [.next log worker exchange]) worker later more rest := by
  have early : ∀ request ∈ current, request.time ≤ log.length :=
    fun request among => (past request (account.mem_log among)).le
  have affects := works.affects
  cases works with
  | goes leads pending remaining call tally makes =>
    refine ⟨advances, current ++ [.next log worker exchange], ?_, account.taken,
      account.given, ?_, account.tells.2.leads early leads pending affects past noted⟩
    · rw [Line.requestsOf_next (quiet_of_leads leads), account.requests,
        List.append_assoc]
    · rw [List.map_append]
      exact account.tells.1.makes makes
  | refused unloaded remaining call tally makes =>
    obtain ⟨brings, opening, first, reload, rest, rfl, misses, reloads, ready⟩ :=
      account.tells
    refine ⟨advances, opening ++ first :: reload :: rest ++ [.next log worker missed], ?_,
      account.taken, account.given, ?_⟩
    · rw [Line.requestsOf_next rfl, account.requests, List.append_assoc]
    · refine .twice ?_ (misses.concat (early first (by simp))) reloads ⟨rfl, ?_⟩
      · rw [List.map_append]
        exact brings.makes makes
      · exact (Line.unloaded_concat_iff (Nat.le_refl _)).mpr (ready.unloaded unloaded)
  | takes runs loaded remaining call adds early makes =>
    obtain ⟨more, requests, length, given⟩ := account.handing fits.2.1 listed makes
    exact ⟨more, [], account_next fits.2.2 requests length given⟩
  | takesLast runs loaded remaining call adds due makes =>
    obtain ⟨more, requests, length, given⟩ := account.handing fits.2.1 listed makes
    exact ⟨more, [], by rw [requests, List.append_nil], length, given, rfl⟩
  | flushes remaining call tally =>
    have none : current = [] := account.tells
    subst none
    refine ⟨advances, [], account_next fits.2.2 ?_ account.taken account.given⟩
    rw [Line.requestsOf_concat fun own => Bool.noConfusion own.2, account.requests,
      List.append_nil]

/-! ## What one request leaves -/

/-- If the script is loaded, no unloading is the last word on it. -/
theorem Affects.not_unloaded (affects : Affects before after exchange)
    (loaded : HasScript before → ¬ Unloaded log 0 log.length)
    (past : ∀ other ∈ log, other.time < log.length) (there : HasScript after) :
    ¬ Unloaded (log ++ [.next log worker exchange]) 0 (log.length + 1) := by
  cases affects with
  | loads loads quiet => exact Line.not_unloaded_of_loads past quiet loads
  | flushes flushes gone => exact absurd there gone
  | keeps loads quiet same =>
    rw [Line.unloaded_succ_iff past quiet loads]
    exact loaded (same.mp there)

/-- An executor notes the script only after it was loaded. -/
theorem Works.noted (works : Works plan worker wheel before shift (some exchange) later after)
    (account : Account plan before log worker shift advances current)
    (past : ∀ other ∈ log, other.time < log.length)
    (noted : Noted before log) :
    Noted after (log ++ [.next log worker exchange]) := by
  have affects := works.affects
  intro digest same
  have concat : Ready before log 0 → Ready after (log ++ [.next log worker exchange]) 0 :=
    fun ready => ready.concat (Nat.zero_le _) affects rfl past
  cases works with
  | refused | takes | takesLast | flushes => exact concat (noted digest same)
  | goes leads pending =>
    cases leads with
    | noted => exact concat account.tells.2
    | renoted => exact concat (Tracks.ready_of_reloaded account.tells.2)
    | _ => exact concat (noted digest same)

/-- A run of the script gives out the element that the wheel stands on, if the script is
there. -/
theorem Works.answered
    (works : Works plan worker wheel before shift (some exchange) later after)
    (account : Account plan before log worker shift advances current)
    (listed : wheel.current ∈ elements plan)
    (loaded : HasScript before → ¬ Unloaded log 0 log.length)
    (run : exchange.request = Stage.evaluation cycle) :
    Answered plan (log ++ [.next log worker exchange]) (.next log worker exchange) := by
  have here : Unloaded (log ++ [.next log worker exchange]) 0 log.length ↔
      Unloaded log 0 log.length :=
    Line.unloaded_concat_iff (Nat.le_refl _)
  rw [Answered, here]
  cases works with
  | takes _ there | takesLast _ there => exact .inl ⟨⟨_, listed, rfl⟩, loaded there⟩
  | flushes => cases run
  | refused unloaded =>
    have ready := Tracks.ready_of_reloaded account.tells.2
    exact .inr ⟨rfl, here.mpr (ready.unloaded unloaded)⟩
  | goes leads pending =>
    cases leads with
    | refused _ unloaded =>
      exact .inr ⟨rfl, here.mpr (Ready.unloaded account.tells.2 unloaded)⟩
    | turned | vanished | refusedAgain | evalFailed => exact absurd rfl (pending _)
    | _ => cases run

end

/-! ## The log along a schedule -/

/-- The workers of a pool stand on the shifts, and the log tells how they got there. -/
structure Recorded (plan : Plan) (pool : Pool Deployment.interface WorkerEnd Deployment)
    (shifts : List Shift) (log : List Line) : Prop where
  staffed : Staffed plan pool shifts
  ordered : Line.Ordered log
  loaded : HasScript pool.state → ¬ Unloaded log 0 log.length
  noted : Noted pool.state log
  runs : ∀ run ∈ log, run.exchange.request = Stage.evaluation cycle → Answered plan log run
  accounts : ∀ (worker : Nat) (shift : Shift), shifts[worker]? = some shift →
    ∃ advances current, Account plan pool.state log worker shift advances current

section

variable {plan : Plan} {pool : Pool Deployment.interface WorkerEnd Deployment}
  {shifts : List Shift} {log : List Line}

/-- Every request is told by the log. -/
theorem Recorded.step (recorded : Recorded plan pool shifts log)
    (periodic : plan.flushEvery = some 0 → plan.calls = 0) {worker : Nat}
    {exchange : Exchange} (asked : pool.exchange? worker = some exchange) :
    ∃ later, Recorded plan (pool.step Deployment.serve worker) later
      (log ++ [.next log worker exchange]) := by
  obtain ⟨shift, found⟩ : ∃ shift, shifts[worker]? = some shift := by
    rw [Pool.exchange?, recorded.staffed.clients, List.getElem?_mapIdx] at asked
    cases found : shifts[worker]? with
    | some shift => exact ⟨shift, rfl⟩
    | none =>
      rw [found] at asked
      cases asked
  obtain ⟨wheel, _, later, lists, asks, works, staffed⟩ :=
    recorded.staffed.step periodic found
  cases asks.symm.trans asked
  obtain ⟨flushes, crew⟩ := recorded.staffed.crew
  have fits := (crew.stands worker shift found).fits
  have listed := current_mem lists
  have past := recorded.ordered.past
  obtain ⟨advances, current, account⟩ := recorded.accounts worker shift found
  refine ⟨shifts.set worker later, staffed, recorded.ordered.concat worker exchange,
    ?_, ?_, ?_, ?_⟩
  · rw [List.length_append, List.length_singleton]
    exact works.affects.not_unloaded recorded.loaded past
  · exact works.noted account past recorded.noted
  · intro run among evaluates
    rcases List.mem_append.mp among with old | new
    · exact (recorded.runs run old evaluates).concat (past run old).le
    · rw [List.mem_singleton.mp new] at evaluates ⊢
      exact works.answered account listed recorded.loaded evaluates
  · intro other shown given
    by_cases same : other = worker
    · subst same
      rw [List.getElem?_set_self (List.getElem?_eq_some_iff.mp found).1] at given
      cases given
      exact works.exists_account account fits listed past recorded.noted
    · rw [List.getElem?_set_ne (Ne.symm same)] at given
      obtain ⟨theirs, since, account⟩ := recorded.accounts other shown given
      exact ⟨theirs, since, account.concat (Ne.symm same) works.affects rfl past⟩

/-- Whatever the schedule, the log tells how the workers got to where they stand. -/
theorem Recorded.run (periodic : plan.flushEvery = some 0 → plan.calls = 0)
    (recorded : Recorded plan pool shifts []) (schedule : List Nat) :
    ∃ later, Recorded plan (pool.run Deployment.serve schedule) later
      (pool.log 0 schedule) := by
  have keeps : ∀ (pool : Pool Deployment.interface WorkerEnd Deployment) log worker exchange,
      (∃ shifts, Recorded plan pool shifts log) → pool.exchange? worker = some exchange →
        ∃ later, Recorded plan (pool.step Deployment.serve worker) later
          (log ++ [.next log worker exchange]) :=
    fun _ _ _ _ ⟨_, recorded⟩ asked => recorded.step periodic asked
  exact Pool.log_keeps keeps ⟨shifts, recorded⟩ schedule

end

end CyclePhase

end Stress

end Carousel
