/-
# Which arguments make a plan, and what it promises

Of the two products in a stress run only one is looked at when its arguments are accepted,
the number of advances. The number of tokens needs no look: every worker gets an equal
share, rounded down, so that all shares together are no more than the tokens that were
asked for, and what is lost is less than one token for each worker.
-/

import Carousel.Proofs.Shifts

namespace Carousel

namespace Word

variable {first second : UInt64}

/-- A product that fits a word is that product. -/
theorem exists_mul (fits : first.toNat * second.toNat < 2 ^ 64) :
    ∃ product, mul first second = .returned product ∧
      product.toNat = first.toNat * second.toNat := by
  refine ⟨first * second, if_pos fits, ?_⟩
  rw [UInt64.toNat_mul, Nat.mod_eq_of_lt fits]

theorem mul_of_overflow (overflows : ¬ first.toNat * second.toNat < 2 ^ 64) :
    mul first second = .panicked "attempt to multiply with overflow" :=
  if_neg overflows

end Word

namespace Stress

/-- The arguments make sense. -/
structure Usable (arguments : Arguments) : Prop where
  threads_pos : 0 < arguments.threads.toNat
  elements_pos : 0 < arguments.elements.toNat
  calls_fit : arguments.threads.toNat * arguments.calls.toNat < 2 ^ 64
  tokens_suffice : arguments.threads.toNat ≤ arguments.tokens.toNat

/-- The first rule that the arguments break. -/
inductive Breaks (arguments : Arguments) : PlanFlaw → Prop
  | noThreads (none : arguments.threads.toNat = 0) : Breaks arguments .noThreads
  | noElements (threads : 0 < arguments.threads.toNat)
    (none : arguments.elements.toNat = 0) : Breaks arguments .noElements
  | tooManyCalls (threads : 0 < arguments.threads.toNat)
    (elements : 0 < arguments.elements.toNat)
    (many : 2 ^ 64 ≤ arguments.threads.toNat * arguments.calls.toNat) :
    Breaks arguments (.tooManyCalls arguments.threads arguments.calls)
  | tooFewTokens (threads : 0 < arguments.threads.toNat)
    (elements : 0 < arguments.elements.toNat)
    (calls : arguments.threads.toNat * arguments.calls.toNat < 2 ^ 64)
    (few : arguments.tokens.toNat < arguments.threads.toNat) :
    Breaks arguments (.tooFewTokens arguments.tokens arguments.threads)

/-- What a plan that was made of arguments promises. -/
structure Promises (arguments : Arguments) (plan : Plan) : Prop where
  threads : plan.threads = arguments.threads
  calls : plan.calls = arguments.calls
  elements : plan.elements = arguments.elements
  totalCalls : ∃ total, plan.totalCalls = .returned total ∧
    total.toNat = plan.threads.toNat * plan.calls.toNat
  tokensPerThread_pos : 1 ≤ plan.tokensPerThread.toNat
  totalTokens : ∃ total, plan.totalTokens = .returned total ∧
    total.toNat = plan.threads.toNat * plan.tokensPerThread.toNat ∧
      total.toNat ≤ arguments.tokens.toNat ∧
        arguments.tokens.toNat < total.toNat + plan.threads.toNat
  flushEvery_eq_some_iff : ∀ period,
    plan.flushEvery = some period ↔ period = arguments.flushEvery ∧ period ≠ 0
  flushDue : ∀ worker call, ∃ due, CyclePhase.flushDue plan worker call = .returned due

variable {arguments : Arguments} {plan : Plan} {flaw other : PlanFlaw}

theorem Breaks.unique (breaks : Breaks arguments flaw) (also : Breaks arguments other) :
    flaw = other := by
  cases breaks with
  | noThreads none => cases also with
    | noThreads => rfl
    | noElements threads | tooManyCalls threads | tooFewTokens threads => omega
  | noElements threads none => cases also with
    | noElements => rfl
    | noThreads | tooManyCalls | tooFewTokens => omega
  | tooManyCalls threads elements many => cases also with
    | tooManyCalls => rfl
    | noThreads | noElements | tooFewTokens => omega
  | tooFewTokens threads elements calls few => cases also with
    | tooFewTokens => rfl
    | noThreads | noElements | tooManyCalls => omega

theorem Breaks.not_usable (breaks : Breaks arguments flaw) : ¬ Usable arguments := by
  rintro ⟨threads, elements, calls, tokens⟩
  cases breaks <;> omega

namespace Plan

/-- The plan that usable arguments make. -/
def shared (arguments : Arguments) : Plan where
  threads := arguments.threads
  calls := arguments.calls
  elements := arguments.elements
  tokensPerThread := arguments.tokens / arguments.threads
  flushEvery := if 0 < arguments.flushEvery then some arguments.flushEvery else none

/-- Arguments are usable and accepted, or are refused by the first rule that they
break. -/
theorem ofArguments_cases (arguments : Arguments) :
    (Usable arguments ∧ ofArguments arguments = .ok (shared arguments)) ∨
      ∃ flaw, Breaks arguments flaw ∧ ofArguments arguments = .error flaw := by
  rw [ofArguments]
  split
  · rename_i none
    exact .inr ⟨_, .noThreads (congrArg UInt64.toNat none), rfl⟩
  rename_i threads_ne
  have threads := UInt64.pos_iff_ne_zero.mpr threads_ne
  split
  · rename_i none
    exact .inr ⟨_, .noElements threads (congrArg UInt64.toNat none), rfl⟩
  rename_i elements_ne
  have elements := UInt64.pos_iff_ne_zero.mpr elements_ne
  by_cases calls : arguments.threads.toNat * arguments.calls.toNat < 2 ^ 64
  · obtain ⟨product, multiplied, _⟩ := Word.exists_mul calls
    rw [multiplied]
    dsimp only
    split
    · rename_i few
      exact .inr ⟨_, .tooFewTokens threads elements calls few, rfl⟩
    · rename_i suffice
      exact .inl ⟨⟨threads, elements, calls, Nat.not_lt.mp suffice⟩, rfl⟩
  · rw [Word.mul_of_overflow calls]
    exact .inr ⟨_, .tooManyCalls threads elements (Nat.not_lt.mp calls), rfl⟩

theorem ofArguments_eq_ok_iff :
    ofArguments arguments = .ok plan ↔ Usable arguments ∧ plan = shared arguments := by
  rcases ofArguments_cases arguments with ⟨usable, accepted⟩ | ⟨flaw, breaks, refused⟩
  · simp [accepted, usable, eq_comm]
  · simp [refused, breaks.not_usable]

theorem ofArguments_eq_error_iff :
    ofArguments arguments = .error flaw ↔ Breaks arguments flaw := by
  rcases ofArguments_cases arguments with ⟨usable, accepted⟩ | ⟨first, breaks, refused⟩
  · rw [accepted]
    exact iff_of_false nofun fun breaks => breaks.not_usable usable
  · rw [refused]
    constructor
    · rintro ⟨⟩
      exact breaks
    · intro also
      rw [breaks.unique also]

theorem shared_flushEvery_eq_some_iff {period : UInt64} :
    (shared arguments).flushEvery = some period ↔
      period = arguments.flushEvery ∧ period ≠ 0 := by
  rw [shared]
  split
  · rename_i positive
    have some := UInt64.pos_iff_ne_zero.mp positive
    constructor
    · rintro ⟨⟩
      exact ⟨rfl, some⟩
    · rintro ⟨rfl, _⟩
      rfl
  · rename_i none
    refine iff_of_false nofun ?_
    rintro ⟨rfl, some⟩
    exact none (UInt64.pos_iff_ne_zero.mpr some)

theorem shared_elements_ne (usable : Usable arguments) : (shared arguments).elements ≠ 0 :=
  UInt64.pos_iff_ne_zero.mp usable.elements_pos

theorem shared_flushEvery_ne (arguments : Arguments) :
    (shared arguments).flushEvery ≠ some 0 :=
  fun never => (shared_flushEvery_eq_some_iff.mp never).2 rfl

theorem promises_shared (usable : Usable arguments) :
    Promises arguments (shared arguments) := by
  have share : (shared arguments).tokensPerThread.toNat =
      arguments.tokens.toNat / arguments.threads.toNat :=
    UInt64.toNat_div _ _
  have tokens_fit : arguments.threads.toNat * (shared arguments).tokensPerThread.toNat <
      2 ^ 64 := by
    rw [share]
    exact Nat.lt_of_le_of_lt (Nat.mul_div_le _ _) arguments.tokens.toNat_lt
  refine ⟨rfl, rfl, rfl, Word.exists_mul usable.calls_fit, ?_, ?_,
    fun _ => shared_flushEvery_eq_some_iff, ?_⟩
  · rw [share]
    exact Nat.div_pos usable.tokens_suffice usable.threads_pos
  · obtain ⟨total, multiplied, product⟩ := Word.exists_mul tokens_fit
    refine ⟨total, multiplied, product, ?_⟩
    rw [product, share]
    exact ⟨Nat.mul_div_le _ _, Nat.lt_mul_div_succ _ usable.threads_pos⟩
  · exact CyclePhase.exists_flushDue (shared_flushEvery_ne arguments)

/-- **Exactly the usable arguments make a plan.** All others are refused by the first rule
that they break. A plan advances and mints as often as its numbers say, neither number
being too large for a word: every worker gets a token at least, together they get no more
than was asked for, and less than one each is lost. No plan flushes every zero advances,
so asking whether a flush is due never divides by zero. -/
theorem ofArguments_admits_usable (arguments : Arguments) :
    ((∃ plan, ofArguments arguments = .ok plan) ↔ Usable arguments) ∧
    (∀ flaw, ofArguments arguments = .error flaw ↔ Breaks arguments flaw) ∧
    ∀ plan, ofArguments arguments = .ok plan → Promises arguments plan := by
  refine ⟨?_, fun flaw => ofArguments_eq_error_iff, ?_⟩
  · constructor
    · rintro ⟨plan, accepted⟩
      exact (ofArguments_eq_ok_iff.mp accepted).1
    · intro usable
      exact ⟨_, ofArguments_eq_ok_iff.mpr ⟨usable, rfl⟩⟩
  · intro plan accepted
    obtain ⟨usable, rfl⟩ := ofArguments_eq_ok_iff.mp accepted
    exact promises_shared usable

/-- The largest numbers of which the product still fits a word. -/
example :
    ofArguments ⟨0xFFFFFFFF, 0x100000001, 1, 0xFFFFFFFFFFFFFFFF, 0⟩ =
      .ok ⟨0xFFFFFFFF, 0x100000001, 1, 0x100000001, none⟩ := by
  rfl

end Plan

end Stress

end Carousel
