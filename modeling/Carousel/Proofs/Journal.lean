/-
# What the calls of one generator record, in order

The journal of a family lists the tokens that its generators have handed out in a
run, each with the millisecond that its call recorded. Calls of other generators
on the same devices, interrupts, panics and refusals leave no entry, and a call
that waits for too long ends the journal.

Two facts hold along the journal. On any clock, no call records what the one
before it recorded. On a clock that never goes back, the two milliseconds of each
entry and those of the next are in order. Everything else about the order of
timestamps follows from the second fact.
-/

import Carousel.Proofs.Minting
import Mathlib.Data.List.Chain

namespace Carousel

/-- A token that was handed out: the generator that was called, the millisecond
that the call recorded, and the token. -/
structure Entry where
  generator : Nat
  recorded : UInt64
  token : Token
  deriving DecidableEq

namespace Mint

/-- The state that the generators of a family share. -/
def family (mint : Mint) (index : Nat) : Generator :=
  mint.families.getD index {}

/-- The generator that a call asks for a token. -/
def Call.minter? : Call → Option Nat
  | .tryMint generator _ => some generator
  | .mint generator _ => some generator
  | _ => none

/-- The entry that a call makes in the journal of a family. -/
def entryOf (family : Nat) (mint : Mint) (call : Call) (answer : Answer)
    (after : Mint) : Option Entry :=
  match call.minter?, answer with
  | some generator, .minted (.returned (.ok minted)) =>
    if mint.familyOf generator = family then
      some ⟨generator, (after.state generator).last, minted.token⟩
    else none
  | _, _ => none

/-- The tokens that the generators of a family hand out in a run. -/
def journal (devices : Devices) (patience family : Nat) :
    List Call → Mint → List Entry
  | [], _ => []
  | call :: rest, mint =>
    match mint.perform devices patience call with
    | none => []
    | some (answer, after) =>
      (entryOf family mint call answer after).toList ++
        journal devices patience family rest after

/-- Every generator belongs to a family that exists, and so does one that has not
come into being. -/
structure Housed (mint : Mint) : Prop where
  first : 0 < mint.families.length
  members : ∀ member ∈ mint.members, member < mint.families.length

variable {mint after : Mint} {devices : Devices} {patience : Nat}

theorem housed_initial : initial.Housed where
  first := Nat.zero_lt_one
  members := by
    intro member listed
    rw [List.mem_singleton.mp listed]
    exact Nat.zero_lt_one

theorem Housed.familyOf_lt (housed : mint.Housed) (generator : Nat) :
    mint.familyOf generator < mint.families.length := by
  rw [familyOf, List.getD_eq_getElem?_getD]
  cases found : mint.members[generator]? with
  | none => exact housed.first
  | some member => exact housed.members member (List.mem_of_getElem? found)

theorem Housed.withState (housed : mint.Housed) (family : Nat) (state : Generator)
    (usage : Usage) :
    Housed { mint with families := mint.families.set family state, usage } where
  first := by
    rw [List.length_set]
    exact housed.first
  members := by
    rw [List.length_set]
    exact housed.members

/-- A generator may join any family that exists, also one that is new. -/
theorem Housed.withMember (housed : mint.Housed) {families : List Generator}
    (grown : mint.families.length ≤ families.length) {newcomer : Nat}
    (within : newcomer < families.length) :
    Housed { mint with families, members := mint.members ++ [newcomer] } where
  first := Nat.lt_of_lt_of_le housed.first grown
  members := by
    intro member listed
    rcases List.mem_append.mp listed with old | new
    · exact Nat.lt_of_lt_of_le (housed.members member old) grown
    · rw [List.mem_singleton.mp new]
      exact within

/-! ## One call -/

/-- What a call does to a family: its generator hands out a token, which makes an
entry, or there is no entry, and the state stays as it is or is poisoned. -/
inductive Effect (devices : Devices) (family : Nat) (mint after : Mint) :
    Option Entry → Prop
  | handed {name : String} {minted : Minted} {entry : Entry}
      (struck : Generator.Struck devices name (mint.family family) mint.usage minted
        (after.family family) after.usage)
      (recorded : entry.recorded = (after.family family).last)
      (token : entry.token = minted.token) : Effect devices family mint after (some entry)
  | kept (same : after.family family = mint.family family) :
      Effect devices family mint after none
  | poisoned (poisoned : (after.family family).poisoned = true) :
      Effect devices family mint after none

/-- What carrying out one call keeps, and what it does to a family. -/
structure Performed (devices : Devices) (family : Nat) (mint : Mint)
    (entry : Option Entry) (after : Mint) : Prop where
  housed : after.Housed
  reads_le : mint.usage.reads ≤ after.usage.reads
  effect : Effect devices family mint after entry

theorem family_set (housed : mint.Housed) (generator family : Nat) (state : Generator)
    (usage : Usage) :
    Mint.family
        { mint with
          families := mint.families.set (mint.familyOf generator) state
          usage } family =
      if mint.familyOf generator = family then state else mint.family family := by
  have within := housed.familyOf_lt generator
  rw [Mint.family, List.getD_eq_getElem?_getD, List.getElem?_set]
  by_cases same : mint.familyOf generator = family
  · rw [if_pos same, if_pos (same ▸ within), if_pos same]
    rfl
  · rw [if_neg same, if_neg same, Mint.family, List.getD_eq_getElem?_getD]

/-- Only a token makes an entry. -/
theorem entryOf_of_untold {family : Nat} {call : Call} {answer : Answer}
    (untold : ∀ minted, answer ≠ .minted (.returned (.ok minted))) :
    entryOf family mint call answer after = none := by
  rw [entryOf]
  intro _ minted _ told
  exact untold minted told

/-- A call that asks for no token makes no entry. -/
theorem entryOf_of_unasked {family : Nat} {call : Call} {answer : Answer}
    (unasked : call.minter? = none) :
    entryOf family mint call answer after = none := by
  rw [entryOf]
  intro generator _ asked
  rw [unasked] at asked
  cases asked

theorem entryOf_of_told {family generator : Nat} {call : Call} {minted : Minted}
    (asked : call.minter? = some generator) :
    entryOf family mint call (.minted (.returned (.ok minted))) after =
      if mint.familyOf generator = family then
        some ⟨generator, (after.state generator).last, minted.token⟩
      else none := by
  simp only [entryOf, asked]

/-- Having a generator mint a token affects its family, and no other. -/
theorem performed_of_strike (housed : mint.Housed) {generator : Nat} {name : String}
    {ending : Ending (Except Fault Minted)}
    (struck : mint.strike devices patience generator name = some (ending, after))
    (family : Nat) {call : Call} (asked : call.minter? = some generator)
    {answer : Answer}
    (told : ∀ minted, answer = .minted (.returned (.ok minted)) ↔
      ending = .returned (.ok minted)) :
    Performed devices family mint (entryOf family mint call answer after) after := by
  rw [strike] at struck
  rcases called : (mint.state generator).mint devices patience name mint.usage with
    _ | ⟨result, state, usage⟩
  · simp only [called] at struck
    cases struck
  · simp only [called] at struck
    cases struck
    obtain ⟨grown, cases⟩ := Generator.mint_cases called
    have mine := family_set housed generator family state usage
    exact
      { housed := housed.withState (mint.familyOf generator) state usage
        reads_le := grown
        effect := by
          by_cases same : mint.familyOf generator = family
          · rw [if_pos same] at mine
            rcases cases with ⟨minted, returned, struck⟩ | ⟨poisoned, unreturned⟩
            · rw [(told minted).mpr returned, entryOf_of_told asked, if_pos same]
              subst same
              rw [← mine] at struck
              exact .handed struck rfl rfl
            · rw [entryOf_of_untold fun minted => mt (told minted).mp (unreturned minted)]
              rw [← mine] at poisoned
              exact .poisoned poisoned
          · rw [if_neg same] at mine
            rcases cases with ⟨minted, returned, _⟩ | ⟨_, unreturned⟩
            · rw [(told minted).mpr returned, entryOf_of_told asked, if_neg same]
              exact .kept mine
            · rw [entryOf_of_untold fun minted => mt (told minted).mp (unreturned minted)]
              exact .kept mine }

/-- A family that has just come into being is in the state that it was taken to
have before. -/
theorem family_append (family : Nat) (members : List Nat) :
    Mint.family
        { mint with families := mint.families ++ [{}], members := members } family =
      mint.family family := by
  rw [Mint.family, Mint.family, List.getD_eq_getElem?_getD, List.getD_eq_getElem?_getD,
    List.getElem?_append]
  split
  · rfl
  · rename_i beyond
    rw [List.getElem?_eq_none (by omega : mint.families.length ≤ family)]
    cases family - mint.families.length with
    | zero => rfl
    | succ rest => rfl

/-- What one call keeps, and what it does to a family. -/
theorem performed_of_perform (housed : mint.Housed) {call : Call} {answer : Answer}
    (performed : mint.perform devices patience call = some (answer, after))
    (family : Nat) :
    Performed devices family mint (entryOf family mint call answer after) after := by
  cases call with
  | tryMint generator name =>
    rw [perform, Option.map_eq_some_iff] at performed
    obtain ⟨⟨ending, result⟩, struck, same⟩ := performed
    cases same
    apply performed_of_strike housed struck family rfl
    intro minted
    exact ⟨fun told => Answer.minted.inj told, congrArg _⟩
  | mint generator name =>
    rw [perform, Option.map_eq_some_iff] at performed
    obtain ⟨⟨ending, result⟩, struck, same⟩ := performed
    cases same
    apply performed_of_strike housed struck family rfl
    intro minted
    -- A refusal becomes a panic, but a token stays the token it is.
    rcases ending with (fault | found) | message
    · constructor <;> (intro impossible; cases impossible)
    · constructor <;> (intro same; cases same; rfl)
    · constructor <;> (intro impossible; cases impossible)
  | lastTimestamp generator =>
    cases performed
    rw [entryOf_of_unasked rfl]
    exact ⟨housed, Nat.le_refl _, .kept rfl⟩
  | interrupt =>
    cases performed
    rw [entryOf_of_unasked rfl]
    exact ⟨⟨housed.first, housed.members⟩, Nat.le_refl _, .kept rfl⟩
  | observe =>
    cases performed
    rw [entryOf_of_unasked rfl]
    exact ⟨⟨housed.first, housed.members⟩, Nat.le_refl _, .kept rfl⟩
  | newGenerator =>
    cases performed
    rw [entryOf_of_unasked rfl]
    have longer : (mint.families ++ [({} : Generator)]).length = mint.families.length + 1 :=
      List.length_append
    exact
      { housed := housed.withMember (by omega) (by omega)
        reads_le := Nat.le_refl _
        effect := .kept (family_append _ _) }
  | cloneGenerator generator =>
    cases performed
    rw [entryOf_of_unasked rfl]
    exact
      { housed := housed.withMember (Nat.le_refl _) (housed.familyOf_lt generator)
        reads_le := Nat.le_refl _
        effect := .kept rfl }

/-! ## Whole runs -/

theorem journal_cons {family : Nat} {call : Call} {answer : Answer} (rest : List Call)
    (performed : mint.perform devices patience call = some (answer, after)) :
    journal devices patience family (call :: rest) mint =
      (entryOf family mint call answer after).toList ++
        journal devices patience family rest after := by
  rw [journal]
  simp only [performed]

theorem journal_of_undecided {family : Nat} {call : Call} (rest : List Call)
    (undecided : mint.perform devices patience call = none) :
    journal devices patience family (call :: rest) mint = [] := by
  rw [journal]
  simp only [undecided]

/-- A poisoned family hands out nothing any more. -/
theorem journal_of_poisoned (housed : mint.Housed) {family : Nat}
    (poisoned : (mint.family family).poisoned = true) (calls : List Call) :
    journal devices patience family calls mint = [] := by
  induction calls generalizing mint with
  | nil => rfl
  | cons call rest ih =>
    cases performed : mint.perform devices patience call with
    | none => exact journal_of_undecided rest performed
    | some result =>
      obtain ⟨answer, after⟩ := result
      obtain ⟨housed, _, effect⟩ := performed_of_perform housed performed family
      rw [journal_cons rest performed]
      generalize entryOf family mint call answer after = entry at effect
      cases effect with
      | handed struck =>
        rw [struck.open_before] at poisoned
        cases poisoned
      | kept same => exact ih housed (same ▸ poisoned)
      | poisoned still => exact ih housed still

/-- On any clock, a call records another millisecond than the call of the family
before it, and the first one another than was recorded at the start. -/
theorem journal_isChain_ne (housed : mint.Housed) (family : Nat) (calls : List Call) :
    ((mint.family family).last ::
      (journal devices patience family calls mint).map Entry.recorded).IsChain
        (· ≠ ·) := by
  induction calls generalizing mint with
  | nil => exact .singleton _
  | cons call rest ih =>
    cases performed : mint.perform devices patience call with
    | none =>
      rw [journal_of_undecided rest performed]
      exact .singleton _
    | some result =>
      obtain ⟨answer, after⟩ := result
      obtain ⟨housed, _, effect⟩ := performed_of_perform housed performed family
      have later := ih housed
      rw [journal_cons rest performed]
      generalize entryOf family mint call answer after = entry at effect
      cases effect with
      | handed struck recorded =>
        rw [Option.toList_some, List.singleton_append, List.map_cons, recorded,
          List.isChain_cons_cons]
        exact ⟨struck.last_ne.symm, later⟩
      | kept same =>
        rw [same] at later
        exact later
      | poisoned poisoned =>
        rw [Option.toList_none, List.nil_append, journal_of_poisoned housed poisoned]
        exact .singleton _

end Mint

/-- One entry precedes another: what the one recorded is less than what the other
did, and the timestamp of the one is no greater than that, which in turn is no
greater than the timestamp of the other. -/
structure Entry.Precedes (first second : Entry) : Prop where
  recorded_lt : first.recorded < second.recorded
  timestamp_le : first.token.timestamp ≤ second.recorded
  within : second.recorded ≤ second.token.timestamp

instance : Trans Entry.Precedes Entry.Precedes Entry.Precedes where
  trans first second :=
    { recorded_lt := UInt64.lt_trans first.recorded_lt second.recorded_lt
      timestamp_le :=
        UInt64.le_trans first.timestamp_le (UInt64.le_of_lt second.recorded_lt)
      within := second.within }

namespace Mint

variable {mint : Mint} {devices : Devices} {patience : Nat}

/-- On a steady clock each entry precedes the next. The start is an entry that
records what the family has recorded so far, with a timestamp that has passed. -/
theorem journal_isChain_precedes (steady : devices.Steady) (housed : mint.Housed)
    (family : Nat) (calls : List Call) {start : Entry}
    (recorded : start.recorded = (mint.family family).last)
    (within : start.recorded ≤ start.token.timestamp)
    (passed : devices.Passed mint.usage start.token.timestamp) :
    (start :: journal devices patience family calls mint).IsChain Entry.Precedes := by
  induction calls generalizing mint start with
  | nil => exact .singleton _
  | cons call rest ih =>
    cases performed : mint.perform devices patience call with
    | none =>
      rw [journal_of_undecided rest performed]
      exact .singleton _
    | some result =>
      obtain ⟨answer, after⟩ := result
      obtain ⟨housed, grown, effect⟩ := performed_of_perform housed performed family
      rw [journal_cons rest performed]
      generalize entryOf family mint call answer after = entry at effect
      cases effect with
      | @handed _ minted entry struck records token =>
        obtain ⟨early, late⟩ := struck.passed steady
        rw [← records, ← token] at early
        rw [← token] at late
        have bound : start.token.timestamp ≤ entry.recorded :=
          records ▸ struck.le_last passed
        have other : start.recorded ≠ entry.recorded := by
          rw [recorded, records]
          exact struck.last_ne.symm
        have first : start.Precedes entry :=
          { recorded_lt :=
              UInt64.lt_of_le_of_ne (UInt64.le_trans within bound) other
            timestamp_le := bound
            within := early }
        rw [Option.toList_some, List.singleton_append, List.isChain_cons_cons]
        exact ⟨first, ih housed records early late⟩
      | kept same =>
        rw [Option.toList_none, List.nil_append]
        exact ih housed (recorded.trans (congrArg Generator.last same.symm)) within
          (passed.mono grown)
      | poisoned poisoned =>
        rw [Option.toList_none, List.nil_append, journal_of_poisoned housed poisoned]
        exact .singleton _

end Mint

end Carousel
