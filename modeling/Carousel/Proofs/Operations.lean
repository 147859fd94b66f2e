/-
# What the operations on a cycle ask for, and what they make of the answers

A cycle can be put in front of any store and any executor. Here nothing is known of them:
they may answer every request as they like, fail in any way, panic, and contradict
themselves from request to request. What an operation does then is told as the list of
its requests, each with its answer.

There are few courses that an operation can take. It makes two requests at most, the
first of which is then the look for the record, and the second one follows only from what
the look told. A request that fails or panics is the last one, and the operation fails or
panics with it. Nothing is asked twice.
-/

import Carousel.Proofs.Applications
import Carousel.Proofs.Wheel

namespace Carousel

namespace Ending

variable {α : Type}

/-- The failure that a call came back with. -/
def failure? : Ending (Except Failure α) → Option Failure
  | .returned (.error failure) => some failure
  | .returned (.ok _) | .panicked _ => none

/-- The result that a call came back with. -/
def result? : Ending (Except Failure α) → Option α
  | .returned (.ok result) => some result
  | .returned (.error _) | .panicked _ => none

@[simp]
theorem failure?_eq_some_iff {ending : Ending (Except Failure α)} {failure : Failure} :
    ending.failure? = some failure ↔ ending = .returned (.error failure) := by
  rcases ending with (_ | _) | _ <;> simp [failure?]

@[simp]
theorem result?_eq_some_iff {ending : Ending (Except Failure α)} {result : α} :
    ending.result? = some result ↔ ending = .returned (.ok result) := by
  rcases ending with (_ | _) | _ <;> simp [result?]

end Ending

namespace Cycle

/-- A request, and how it was answered. -/
structure Exchange where
  request : Request
  ending : Ending request.Answer

namespace Exchange

/-- The failure that a request was answered with. -/
@[simp]
def failure? : Exchange → Option Failure
  | ⟨.has _, ending⟩ => ending.failure?
  | ⟨.replace _ _, ending⟩ => ending.failure?
  | ⟨.delete _, ending⟩ => ending.failure?
  | ⟨.execute _ _ _, ending⟩ => ending.failure?

/-- What the look for a record told. -/
@[simp]
def found? : Exchange → Option Bool
  | ⟨.has _, ending⟩ => ending.result?
  | _ => none

/-- What a script answered. -/
@[simp]
def scalar? : Exchange → Option Scalar
  | ⟨.execute _ _ _, ending⟩ => ending.result?
  | _ => none

end Exchange

/-- An operation that is called on a handle. -/
structure Task where
  handle : Cycle
  call : Call

/-- The program that carries out a task. -/
def Task.program (task : Task) : Operation Value :=
  Command.operation task.handle task.call

/-- The requests that were made to carry out a task, with their answers, and how it
ended. -/
structure Performance where
  task : Task
  exchanges : List Exchange
  ending : Ending (Except Fault Value)

section

variable {σ α : Type} (serve : Server interface σ)

/-- The requests that a program makes when it is run to its end, with their answers. -/
def exchanges (program : Program interface α) (state : σ) : List Exchange :=
  (program.trace serve state).map fun (request, met) => ⟨request, (serve request met).1⟩

def perform (task : Task) (state : σ) : Performance × σ :=
  ({ task
     exchanges := exchanges serve task.program state
     ending := (task.program.run serve state).1 },
    (task.program.run serve state).2)

/-- Carry out tasks, each on what the one before it left. -/
def performAll : List Task → σ → List Performance × σ
  | [], state => ([], state)
  | task :: rest, state =>
    let (performance, after) := perform serve task state
    let (performances, final) := performAll rest after
    (performance :: performances, final)

end

/-! ## The courses of an operation -/

section

variable (handle : Cycle)

/-- The courses that an operation can take: its requests with their answers, and how it
ends. -/
inductive Course : Call → List Exchange → Ending (Except Fault Value) → Prop
  | exists? (answer : Ending (Except Failure Bool)) :
    Course .exists? [⟨.has handle.name, answer⟩] (answer.map (Command.ofAnswer .flag))
  | remove (answer : Ending (Except Failure Unit)) :
    Course .remove [⟨.delete handle.name, answer⟩]
      (answer.map (Command.ofAnswer fun _ => .unit))
  | createEmpty : Course (.create []) [] (.returned (.error (.emptyCycle handle.name)))
  | create {elements : List String} (filled : elements ≠ [])
    (answer : Ending (Except Failure Unit)) :
    Course (.create elements) [⟨.replace handle.name (freshFields elements), answer⟩]
      (answer.map (Command.ofAnswer fun _ => .unit))
  | createIfMissingUntold {elements : List String} {answer : Ending (Except Failure Bool)}
    (untold : ∀ found, answer ≠ .returned (.ok found)) :
    Course (.createIfMissing elements) [⟨.has handle.name, answer⟩]
      (answer.map (Command.ofAnswer .flag))
  | createIfMissingPresent {elements : List String} :
    Course (.createIfMissing elements) [⟨.has handle.name, .returned (.ok true)⟩]
      (.returned (.ok .unit))
  | createIfMissingAbsent {elements : List String} {exchanges : List Exchange}
    {ending : Ending (Except Fault Value)}
    (course : Course (.create elements) exchanges ending) :
    Course (.createIfMissing elements)
      (⟨.has handle.name, .returned (.ok false)⟩ :: exchanges) ending
  | nextUntold {answer : Ending (Except Failure Bool)}
    (untold : ∀ found, answer ≠ .returned (.ok found)) :
    Course .next [⟨.has handle.name, answer⟩] (answer.map (Command.ofAnswer .flag))
  | nextAbsent :
    Course .next [⟨.has handle.name, .returned (.ok false)⟩]
      (.returned (.ok (.optionalText none)))
  | nextPresent (answer : Ending (Except Failure Scalar)) :
    Course .next
      [⟨.has handle.name, .returned (.ok true)⟩,
        ⟨.execute handle.script [handle.name] [], answer⟩]
      (answer.map (Command.ofScript handle))

end

/-! ## Following a program -/

section

variable {σ α : Type} {serve : Server interface σ} {state : σ}
  {course : List Exchange → Ending α → Prop}

/-- The requests of a program and how it ends are as it is said of the course. -/
def Follows (serve : Server interface σ) (course : List Exchange → Ending α → Prop)
    (program : Program interface α) (state : σ) : Prop :=
  course (exchanges serve program state) (program.run serve state).1

theorem follows_done {result : α} (holds : course [] (.returned result)) :
    Follows serve course (.done result) state :=
  holds

theorem follows_ask {request : Request} {rest : request.Answer → Program interface α}
    (panicked : ∀ message, course [⟨request, .panicked message⟩] (.panicked message))
    (returned : ∀ answer after,
      Follows serve (fun exchanges => course (⟨request, .returned answer⟩ :: exchanges))
        (rest answer) after) :
    Follows serve course (.ask request rest) state := by
  rcases served : serve request state with ⟨answer | message, after⟩
  · simpa only [Follows, exchanges, Program.trace, Program.run_ask, served, List.map_cons]
      using returned answer after
  · simpa only [Follows, exchanges, Program.trace, Program.run_ask, served, List.map_cons,
      List.map_nil] using panicked message

end

section

variable {σ : Type} (serve : Server interface σ) (handle : Cycle) (state : σ)

theorem follows_create (elements : List String) :
    Follows serve (Course handle (.create elements))
      (Command.operation handle (.create elements)) state := by
  cases elements with
  | nil => exact follows_done .createEmpty
  | cons element rest =>
    have filled := List.cons_ne_nil element rest
    apply follows_ask
    · exact fun message => .create filled (.panicked message)
    · rintro (failure | ⟨⟩) after
      · exact follows_done (.create filled (.returned (.error failure)))
      · exact follows_done (.create filled (.returned (.ok ())))

/-- Every operation takes one of its courses. -/
theorem follows_operation (call : Call) :
    Follows serve (Course handle call) (Command.operation handle call) state := by
  cases call with
  | exists? =>
    apply follows_ask
    · exact fun message => .exists? (.panicked message)
    · rintro (failure | found) after
      · exact follows_done (.exists? (.returned (.error failure)))
      · exact follows_done (.exists? (.returned (.ok found)))
  | create elements => exact follows_create serve handle state elements
  | createIfMissing elements =>
    apply follows_ask
    · exact fun message => .createIfMissingUntold nofun
    · rintro (failure | _ | _) after
      · exact follows_done (.createIfMissingUntold nofun)
      · have created := follows_create serve handle after elements
        exact Course.createIfMissingAbsent created
      · exact follows_done .createIfMissingPresent
  | next =>
    apply follows_ask
    · exact fun message => .nextUntold nofun
    · rintro (failure | _ | _) after
      · exact follows_done (.nextUntold nofun)
      · exact follows_done .nextAbsent
      · apply follows_ask
        · exact fun message => .nextPresent (.panicked message)
        · rintro (failure | element | value | _) after
          · exact follows_done (.nextPresent (.returned (.error failure)))
          · exact follows_done (.nextPresent (.returned (.ok (.text element))))
          · exact follows_done (.nextPresent (.returned (.ok (.int value))))
          · exact follows_done (.nextPresent (.returned (.ok .nil)))
  | remove =>
    apply follows_ask
    · exact fun message => .remove (.panicked message)
    · rintro (failure | ⟨⟩) after
      · exact follows_done (.remove (.returned (.error failure)))
      · exact follows_done (.remove (.returned (.ok ())))

end

/-! ## What answers come to -/

section

variable {α : Type} {failure : Failure} {fault : Fault} {value : Value}

theorem map_ofAnswer_eq_error_iff {report : α → Value} {answer : Ending (Except Failure α)} :
    answer.map (Command.ofAnswer report) = .returned (.error fault) ↔
      ∃ failure, fault = .store failure ∧ answer = .returned (.error failure) := by
  rcases answer with (failure | result) | message
  · simp [Ending.map, Command.ofAnswer, eq_comm]
  · simp [Ending.map, Command.ofAnswer]
  · simp [Ending.map]

theorem map_ofAnswer_eq_ok_iff {report : α → Value} {answer : Ending (Except Failure α)} :
    answer.map (Command.ofAnswer report) = .returned (.ok value) ↔
      ∃ result, report result = value ∧ answer = .returned (.ok result) := by
  rcases answer with (failure | result) | message
  · simp [Ending.map, Command.ofAnswer]
  · simp [Ending.map, Command.ofAnswer]
  · simp [Ending.map]

theorem map_ofScript_eq_error_iff {handle : Cycle} {answer : Ending (Except Failure Scalar)} :
    answer.map (Command.ofScript handle) = .returned (.error fault) ↔
      (∃ failure, fault = .store failure ∧ answer = .returned (.error failure)) ∨
        ∃ number, fault = .unexpectedResult handle.name (.int number) ∧
          answer = .returned (.ok (.int number)) := by
  rcases answer with (failure | element | number | _) | message
  · simp [Ending.map, Command.ofScript, eq_comm]
  · simp [Ending.map, Command.ofScript, ofScalar, Except.map]
  · simp [Ending.map, Command.ofScript, ofScalar, Except.map, eq_comm]
  · simp [Ending.map, Command.ofScript, ofScalar, Except.map]
  · simp [Ending.map]

theorem map_ofScript_eq_ok_iff {handle : Cycle} {answer : Ending (Except Failure Scalar)}
    {found : Option String} :
    answer.map (Command.ofScript handle) = .returned (.ok (.optionalText found)) ↔
      (∃ element, found = some element ∧ answer = .returned (.ok (.text element))) ∨
        (found = none ∧ answer = .returned (.ok .nil)) := by
  rcases answer with (failure | element | number | _) | message
  · simp [Ending.map, Command.ofScript]
  · simp [Ending.map, Command.ofScript, ofScalar, Except.map, eq_comm]
  · simp [Ending.map, Command.ofScript, ofScalar, Except.map]
  · simp [Ending.map, Command.ofScript, ofScalar, Except.map, eq_comm]
  · simp [Ending.map]

end

/-! ## What is said of an operation -/

/-- The fields of a fresh cycle are the place and the elements, in their order. -/
theorem elementFields_eq (start : Nat) (elements : List String) :
    elementFields start elements =
      (elements.zipIdx start).map fun (element, index) => (Numeral.render index, element) := by
  induction elements generalizing start with
  | nil => rfl
  | cons element rest ih => rw [elementFields, ih, List.zipIdx_cons, List.map_cons]

/-- The request that writes a fresh cycle. There is none without an element. -/
def writing (handle : Cycle) (elements : List String) : List Request :=
  if elements = [] then []
  else
    [.replace handle.name
      ((currentField, Numeral.render 0) ::
        elements.zipIdx.map fun (element, index) => (Numeral.render index, element))]

/-- The requests of an operation, given what the look for the record told. -/
def Call.requests (handle : Cycle) (found : Option Bool) : Call → List Request
  | .exists? => [.has handle.name]
  | .create elements => writing handle elements
  | .createIfMissing elements =>
    .has handle.name :: if found = some false then writing handle elements else []
  | .next =>
    .has handle.name ::
      if found = some true then [.execute handle.script [handle.name] []] else []
  | .remove => [.delete handle.name]

namespace Performance

variable (performance : Performance)

/-- What the look for the record told, if the operation began with one. -/
def found? : Option Bool :=
  performance.exchanges.head?.bind Exchange.found?

/-- What the script answered, if the operation ended with one. -/
def scalar? : Option Scalar :=
  performance.exchanges.getLast?.bind Exchange.scalar?

/-- What is said of one operation. -/
structure Proper : Prop where
  asks : performance.exchanges.map Exchange.request =
    performance.task.call.requests performance.task.handle performance.found?
  distinct : ∀ exchange ∈ performance.exchanges, ∀ key fields,
    exchange.request = .replace key fields → (fields.map Prod.fst).Nodup
  stops : ∀ exchange ∈ performance.exchanges.dropLast, exchange.failure? = none
  store_iff : ∀ failure, performance.ending = .returned (.error (.store failure)) ↔
    ∃ last, performance.exchanges.getLast? = some last ∧ last.failure? = some failure
  emptyCycle_iff : ∀ key, performance.ending = .returned (.error (.emptyCycle key)) ↔
    key = performance.task.handle.name ∧
      (performance.task.call = .create [] ∨
        performance.task.call = .createIfMissing [] ∧ performance.found? = some false)
  unexpectedResult_iff : ∀ key found,
    performance.ending = .returned (.error (.unexpectedResult key found)) ↔
      key = performance.task.handle.name ∧
        ∃ number, found = .int number ∧ performance.scalar? = some (.int number)
  some_iff : ∀ element,
    performance.ending = .returned (.ok (.optionalText (some element))) ↔
      performance.scalar? = some (.text element)
  none_iff : performance.ending = .returned (.ok (.optionalText none)) ↔
    (performance.task.call = .next ∧ performance.found? = some false) ∨
      performance.scalar? = some .nil

end Performance

section

variable {handle : Cycle} {call : Call} {exchanges : List Exchange}
  {ending : Ending (Except Fault Value)} (course : Course handle call exchanges ending)

include course

theorem Course.requests_eq :
    exchanges.map Exchange.request =
      call.requests handle (exchanges.head?.bind Exchange.found?) := by
  induction course with
  | exists? | remove | createEmpty | createIfMissingPresent | nextAbsent | nextPresent => rfl
  | create filled => simp [Call.requests, writing, filled, freshFields, elementFields_eq]
  | createIfMissingUntold untold | nextUntold untold =>
    simp [Call.requests, untold]
  | createIfMissingAbsent course ih => exact congrArg (Request.has handle.name :: ·) ih

theorem Course.distinct {exchange : Exchange} (made : exchange ∈ exchanges) {key : String}
    {fields : List (String × String)} (writes : exchange.request = .replace key fields) :
    (fields.map Prod.fst).Nodup := by
  induction course with
  | createEmpty => cases made
  | create filled answer =>
    rw [List.mem_singleton] at made
    subst made
    cases writes
    exact nodup_names_fields _ _
  | createIfMissingAbsent course ih =>
    rcases List.mem_cons.mp made with rfl | later
    · cases writes
    · exact ih later
  | exists? | remove | createIfMissingUntold | createIfMissingPresent | nextUntold
  | nextAbsent =>
    rw [List.mem_singleton] at made
    subst made
    cases writes
  | nextPresent =>
    simp only [List.mem_cons, List.not_mem_nil, or_false] at made
    rcases made with rfl | rfl <;> cases writes

/-- Only the last request may have failed. -/
theorem Course.stops {exchange : Exchange} (early : exchange ∈ exchanges.dropLast) :
    exchange.failure? = none := by
  induction course with
  | createIfMissingAbsent course ih =>
    cases course with
    | createEmpty => cases early
    | create =>
      rw [List.mem_singleton.mp early]
      rfl
  | nextPresent =>
    rw [List.mem_singleton.mp early]
    rfl
  | _ => cases early

theorem Course.store_iff {failure : Failure} :
    ending = .returned (.error (.store failure)) ↔
      ∃ last, exchanges.getLast? = some last ∧ last.failure? = some failure := by
  induction course with
  | createEmpty | createIfMissingPresent | nextAbsent => simp
  | exists? | remove | create | createIfMissingUntold | nextUntold =>
    simp [map_ofAnswer_eq_error_iff]
  | createIfMissingAbsent course ih =>
    rw [ih]
    cases course <;> simp
  | nextPresent => simp [map_ofScript_eq_error_iff]

theorem Course.emptyCycle_iff {key : String} :
    ending = .returned (.error (.emptyCycle key)) ↔
      key = handle.name ∧ (call = .create [] ∨
        call = .createIfMissing [] ∧ exchanges.head?.bind Exchange.found? = some false) := by
  induction course with
  | createEmpty => simp [eq_comm]
  | create filled => simp [map_ofAnswer_eq_error_iff, filled]
  | createIfMissingUntold untold =>
    simp [map_ofAnswer_eq_error_iff, untold]
  | exists? | remove | nextUntold => simp [map_ofAnswer_eq_error_iff]
  | createIfMissingPresent | nextAbsent => simp
  | createIfMissingAbsent course ih =>
    rw [ih]
    cases course <;> simp
  | nextPresent => simp [map_ofScript_eq_error_iff]

theorem Course.unexpectedResult_iff {key : String} {found : Scalar} :
    ending = .returned (.error (.unexpectedResult key found)) ↔
      key = handle.name ∧ ∃ number, found = .int number ∧
        exchanges.getLast?.bind Exchange.scalar? = some (.int number) := by
  induction course with
  | createEmpty | createIfMissingPresent | nextAbsent => simp
  | exists? | remove | create | createIfMissingUntold | nextUntold =>
    simp [map_ofAnswer_eq_error_iff]
  | createIfMissingAbsent course ih =>
    rw [ih]
    cases course <;> simp
  | nextPresent => simp [map_ofScript_eq_error_iff, and_assoc]

theorem Course.some_iff {element : String} :
    ending = .returned (.ok (.optionalText (some element))) ↔
      exchanges.getLast?.bind Exchange.scalar? = some (.text element) := by
  induction course with
  | createEmpty | createIfMissingPresent | nextAbsent => simp
  | exists? | remove | create | createIfMissingUntold | nextUntold =>
    simp [map_ofAnswer_eq_ok_iff]
  | createIfMissingAbsent course ih =>
    rw [ih]
    cases course <;> simp
  | nextPresent => simp [map_ofScript_eq_ok_iff]

theorem Course.none_iff :
    ending = .returned (.ok (.optionalText none)) ↔
      (call = .next ∧ exchanges.head?.bind Exchange.found? = some false) ∨
        exchanges.getLast?.bind Exchange.scalar? = some .nil := by
  induction course with
  | createEmpty | createIfMissingPresent | nextAbsent => simp
  | exists? | remove | create | createIfMissingUntold =>
    simp [map_ofAnswer_eq_ok_iff]
  | nextUntold untold => simp [map_ofAnswer_eq_ok_iff, untold]
  | createIfMissingAbsent course ih =>
    rw [ih]
    cases course <;> simp
  | nextPresent => simp [map_ofScript_eq_ok_iff]

end

theorem Course.proper {performance : Performance}
    (course : Course performance.task.handle performance.task.call performance.exchanges
      performance.ending) : performance.Proper where
  asks := course.requests_eq
  distinct := fun _ made _ _ => course.distinct made
  stops := fun _ => course.stops
  store_iff := fun _ => course.store_iff
  emptyCycle_iff := fun _ => course.emptyCycle_iff
  unexpectedResult_iff := fun _ _ => course.unexpectedResult_iff
  some_iff := fun _ => course.some_iff
  none_iff := course.none_iff

/-! ## Many operations -/

/-- **Operations on cycles ask for no more than they need, and add nothing to the
answers.** Whatever the store and the executor answer, request by request, every operation
takes one of its courses: it makes the requests of its kind, in their order, and nothing
after one that failed. A failure of the store is passed on unchanged, and none is made up;
an element is what the script answered, and there is none if there is no record or the
script answered nothing; a number is refused, under the name of the cycle. The fields that
are written for a fresh cycle are named apart. -/
theorem performAll_forthright {σ : Type} (serve : Server interface σ) (tasks : List Task)
    (state : σ) :
    (performAll serve tasks state).1.map Performance.task = tasks ∧
      ∀ performance ∈ (performAll serve tasks state).1,
        Course performance.task.handle performance.task.call performance.exchanges
          performance.ending ∧
        performance.Proper := by
  induction tasks generalizing state with
  | nil => exact ⟨rfl, List.forall_mem_nil _⟩
  | cons task rest ih =>
    have course : Course task.handle task.call _ _ :=
      follows_operation serve task.handle state task.call
    obtain ⟨listed, proper⟩ := ih (perform serve task state).2
    refine ⟨congrArg (task :: ·) listed, List.forall_mem_cons.mpr ⟨?_, proper⟩⟩
    exact ⟨course, course.proper⟩

end Cycle

end Carousel
