/-
# Programs of requests

A client of a store does nothing but ask questions and choose the next question
from the answers. A `Program` is such a client as data: a tree whose inner
nodes are requests and whose branches are the possible answers. The same tree
can be run to its end against any server, be translated into the requests of a
larger server, or be advanced one request at a time between the requests of
other clients. No client handles a panic, so a program never sees one: the
server's panic ends the run.
-/

import Carousel.Ending

namespace Carousel

/-- What may be asked, and the type of answer that each question gets. -/
structure Interface where
  Query : Type
  Answer : Query → Type

/-- A client of an interface that ends with an `α`. -/
inductive Program (face : Interface) (α : Type)
  | done (result : α)
  | ask (query : face.Query) (next : face.Answer query → Program face α)

/-- Serves one request on a state. A panic may have changed the state too. -/
abbrev Server (face : Interface) (σ : Type) :=
  (query : face.Query) → σ → Ending (face.Answer query) × σ

namespace Program

variable {face inner outer : Interface} {α β σ : Type}

/-- Run the first program and continue with what it hands back. -/
def bind : Program face α → (α → Program face β) → Program face β
  | .done result, next => next result
  | .ask query rest, next => .ask query fun answer => (rest answer).bind next

instance : Monad (Program face) where
  pure := .done
  bind := Program.bind

/-- The program that asks one question and hands back the answer. -/
def request (face : Interface) (query : face.Query) :
    Program face (face.Answer query) :=
  .ask query .done

/-- Run a program to its end, one request after the other. -/
def run (serve : Server face σ) : Program face α → σ → Ending α × σ
  | .done result, state => (.returned result, state)
  | .ask query next, state =>
    match serve query state with
    | (.returned answer, after) => (next answer).run serve after
    | (.panicked message, after) => (.panicked message, after)

/-- Ask the questions of one interface through another one. -/
def through (wire : (query : inner.Query) → Program outer (inner.Answer query)) :
    Program inner α → Program outer α
  | .done result => .done result
  | .ask query next =>
    (wire query).bind fun answer => (next answer).through wire

@[simp]
theorem pure_eq_done (result : α) :
    (pure result : Program face α) = .done result :=
  rfl

@[simp]
theorem done_bind (result : α) (next : α → Program face β) :
    (Program.done result >>= next) = next result :=
  rfl

@[simp]
theorem ask_bind (query : face.Query)
    (rest : face.Answer query → Program face α) (next : α → Program face β) :
    (Program.ask query rest >>= next) =
      .ask query fun answer => rest answer >>= next :=
  rfl

theorem bind_done (program : Program face α) : program.bind .done = program := by
  induction program with
  | done result => rfl
  | ask query rest ih => exact congrArg (Program.ask query) (funext ih)

theorem bind_assoc {γ : Type} (first : Program face α) (next : α → Program face β)
    (last : β → Program face γ) :
    (first.bind next).bind last = first.bind fun result => (next result).bind last := by
  induction first with
  | done result => rfl
  | ask query rest ih => exact congrArg (Program.ask query) (funext ih)

@[simp]
theorem run_done (serve : Server face σ) (result : α) (state : σ) :
    (Program.done result).run serve state = (.returned result, state) :=
  rfl

theorem run_ask (serve : Server face σ) (query : face.Query)
    (next : face.Answer query → Program face α) (state : σ) :
    (Program.ask query next).run serve state =
      match serve query state with
      | (.returned answer, after) => (next answer).run serve after
      | (.panicked message, after) => (.panicked message, after) := by
  rw [run]

end Program

end Carousel
