/-
# Following a schedule

A step of a pool serves one request of one client, or does nothing. So whatever
each request keeps, every schedule keeps. A client that is given all the next steps
gets on as if it were alone, up to any point of its program. And draining a pool is
nothing but following one more schedule, so that what every schedule keeps holds
when all clients have finished, too.

Nothing is said about which schedules are fair: each client goes on when it is named.
-/

import Carousel.Pool

namespace Carousel

namespace Pool

variable {face : Interface} {α β σ : Type} (serve : Server face σ)

/-- What naming a client can do. -/
theorem step_cases (pool : Pool face α σ) (index : Nat) :
    pool.step serve index = pool ∨
      ∃ query next, pool.clients[index]? = some (.returned (.ask query next)) ∧
        pool.step serve index =
          { clients := pool.clients.set index ((serve query pool.state).1.map next)
            state := (serve query pool.state).2 } := by
  have idle : ∀ client, pool.clients[index]? = some client →
      pool.clients.set index client = pool.clients := by
    intro client found
    obtain ⟨within, same⟩ := List.getElem?_eq_some_iff.mp found
    rw [← same, List.set_getElem_self]
  rw [step]
  cases found : pool.clients[index]? with
  | none => exact .inl rfl
  | some client =>
    match client with
    | .panicked message =>
      left
      simp only [advance, idle _ found]
    | .returned (.done result) =>
      left
      simp only [advance, idle _ found]
    | .returned (.ask query next) => exact .inr ⟨query, next, rfl, rfl⟩

/-- What every step keeps, every schedule keeps. -/
theorem run_keeps {property : Pool face α σ → Prop}
    (keeps : ∀ pool index, property pool → property (pool.step serve index))
    {pool : Pool face α σ} (holds : property pool) (schedule : List Nat) :
    property (pool.run serve schedule) := by
  induction schedule generalizing pool with
  | nil => exact holds
  | cons index rest ih => exact ih (keeps pool index holds)

theorem run_append (pool : Pool face α σ) (first second : List Nat) :
    pool.run serve (first ++ second) = (pool.run serve first).run serve second :=
  List.foldl_append

/-- Naming a client that has a request to make serves the request. -/
theorem step_of_ask (before rest : List (Ending (Program face α)))
    {query : face.Query} {ending : Ending (face.Answer query)}
    (next : face.Answer query → Program face α) {state after : σ}
    (served : serve query state = (ending, after)) :
    step serve ⟨before ++ .returned (.ask query next) :: rest, state⟩ before.length =
      ⟨before ++ ending.map next :: rest, after⟩ := by
  simp [step, advance, served]

/-- A client that is given all the next steps carries out the first part of its
program to the end, as if it were alone. -/
theorem exists_run_bind (before rest : List (Ending (Program face α)))
    (first : Program face β) (next : β → Program face α) (state : σ) :
    ∃ count,
      run serve ⟨before ++ .returned (first.bind next) :: rest, state⟩
          (List.replicate count before.length) =
        ⟨before ++ (first.run serve state).1.map next :: rest,
          (first.run serve state).2⟩ := by
  induction first generalizing state with
  | done result => exact ⟨0, rfl⟩
  | ask query more ih =>
    rcases served : serve query state with ⟨ending, after⟩
    have stepped := step_of_ask serve before rest (fun answer => (more answer).bind next) served
    rw [Program.run_ask, served]
    cases ending with
    | panicked message => exact ⟨1, stepped⟩
    | returned answer =>
      obtain ⟨count, reached⟩ := ih answer after
      refine ⟨count + 1, ?_⟩
      rw [List.replicate_succ]
      show run serve (step serve ⟨before ++ .returned (.ask query _) :: rest, state⟩ _) _ = _
      rw [stepped]
      exact reached

/-- Letting clients finish one after the other follows a schedule. -/
theorem exists_run_eq_drain (before clients : List (Ending (Program face α)))
    (state : σ) :
    ∃ schedule,
      run serve ⟨before ++ clients, state⟩ schedule =
        ⟨before ++ (drain serve clients state).1.map (Ending.map .done),
          (drain serve clients state).2⟩ := by
  induction clients generalizing before state with
  | nil => exact ⟨[], rfl⟩
  | cons client rest ih =>
    match client with
    | .panicked message =>
      obtain ⟨schedule, reached⟩ := ih (before ++ [.panicked message]) state
      simp only [List.append_assoc, List.singleton_append] at reached
      exact ⟨schedule, reached⟩
    | .returned program =>
      obtain ⟨count, alone⟩ := exists_run_bind serve before rest program .done state
      rw [Program.bind_done] at alone
      obtain ⟨schedule, reached⟩ :=
        ih (before ++ [(program.run serve state).1.map .done]) (program.run serve state).2
      simp only [List.append_assoc, List.singleton_append] at reached
      refine ⟨List.replicate count before.length ++ schedule, ?_⟩
      rw [run_append, alone]
      exact reached

/-- A client that has finished keeps its result while the others finish. -/
theorem mem_drain_of_done {clients : List (Ending (Program face α))} {result : α}
    (listed : .returned (.done result) ∈ clients) (state : σ) :
    .returned result ∈ (drain serve clients state).1 := by
  induction clients generalizing state with
  | nil => cases listed
  | cons client rest ih =>
    rcases List.mem_cons.mp listed with same | later
    · subst same
      exact List.mem_cons_self
    · match client with
      | .panicked message => exact List.mem_cons_of_mem _ (ih later state)
      | .returned program => exact List.mem_cons_of_mem _ (ih later _)

/-- Completing a schedule follows a longer one, to the end of every client. -/
theorem exists_run_eq_complete (pool : Pool face α σ) (schedule : List Nat) :
    ∃ longer,
      pool.run serve (schedule ++ longer) =
        ⟨(pool.complete serve schedule).1.map (Ending.map .done),
          (pool.complete serve schedule).2⟩ := by
  obtain ⟨longer, reached⟩ := exists_run_eq_drain serve []
    (pool.run serve schedule).clients (pool.run serve schedule).state
  refine ⟨longer, ?_⟩
  rw [run_append]
  exact reached

end Pool

end Carousel
