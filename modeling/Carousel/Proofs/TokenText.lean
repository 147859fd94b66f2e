/-
# Texts of tokens

The two numbers in the text of a token hold no underscore, so the last two
underscores are the ones that were put in between, whatever the name holds. The
text is split where it was joined, and two tokens never share a text.
-/

import Carousel.Proofs.Numeral
import Carousel.Token.Reading

namespace Carousel

namespace Token

theorem splitLast_of_not_mem {text : List Char} (absent : '_' ∉ text) :
    splitLast text = none := by
  induction text with
  | nil => rfl
  | cons c rest ih =>
    rw [List.mem_cons, not_or] at absent
    rw [splitLast, ih absent.2]
    exact if_neg (Ne.symm absent.1)

/-- A text is split at an underscore behind which there is none. -/
theorem splitLast_append (before : List Char) {behind : List Char}
    (absent : '_' ∉ behind) :
    splitLast (before ++ '_' :: behind) = some (before, behind) := by
  induction before with
  | nil =>
    rw [List.nil_append, splitLast, splitLast_of_not_mem absent]
    exact if_pos rfl
  | cons c rest ih => rw [List.cons_append, splitLast, ih]

theorem underscore_not_mem_render (number : Nat) :
    '_' ∉ (Numeral.render number).toList := by
  intro listed
  exact absurd (Numeral.isDigit_of_mem_render listed) (by decide)

/-- The text of a token is split into its name and its two numbers. -/
theorem splitParts_render (token : Token) :
    splitParts token.render.toList =
      some (token.name.toList, (Numeral.render token.timestamp.toNat).toList,
        (Numeral.render token.nonce.toNat).toList) := by
  have joined : token.render.toList =
      (token.name.toList ++ '_' :: (Numeral.render token.timestamp.toNat).toList) ++
        '_' :: (Numeral.render token.nonce.toNat).toList := by
    simp [render]
  have front := splitLast_append token.name.toList
    (underscore_not_mem_render token.timestamp.toNat)
  rw [joined, splitParts, splitLast_append _ (underscore_not_mem_render _),
    Option.bind_some]
  simp only [front, Option.map_some]

/-- A token is made of its parts and nothing else. -/
theorem eq_of_parts {first second : Token} (name : first.name = second.name)
    (timestamp : first.timestamp = second.timestamp)
    (nonce : first.nonce = second.nonce) : first = second := by
  rcases first with ⟨_, _, _⟩
  rcases second with ⟨_, _, _⟩
  cases name
  cases timestamp
  cases nonce
  rfl

/-- Two tokens never share a text. -/
theorem render_inj {first second : Token} :
    first.render = second.render ↔ first = second := by
  constructor
  · intro same
    have parts := congrArg (fun text => splitParts text.toList) same
    simp only [splitParts_render, Option.some.injEq, Prod.mk.injEq] at parts
    obtain ⟨name, timestamp, nonce⟩ := parts
    have sameTimestamp := Numeral.render_injective (String.toList_inj.mp timestamp)
    have sameNonce := Numeral.render_injective (String.toList_inj.mp nonce)
    exact eq_of_parts (String.toList_inj.mp name) (UInt64.toNat_inj.mp sameTimestamp)
      (UInt32.toNat_inj.mp sameNonce)
  · exact congrArg render

end Token

end Carousel
