/-
# Room for collections

Where the size of a collection is known beforehand, room for all of it is made
before its first item. A region of memory spans at most half of the address
space, so some collections are refused without looking at how much memory there
is. Such a request panics. Every other request is met: how much memory a machine
has is left out.

A list takes the room of its items. A set of texts, and a record with its fields,
takes a slot for each item and more: the number of slots is a power of two of
which at most seven eighths are used.
-/

import Carousel.Ending

namespace Carousel

namespace Room

/-- The largest region of memory, in bytes. -/
def maxBytes : Nat := UInt64.size / 2 - 1

/-- The bytes that a text takes in a collection, apart from its characters. -/
def textBytes : Nat := 24

/-- The bytes that the handle of a running worker takes in a collection. -/
def workerBytes : Nat := 24

/-- The bytes that a field of a record takes in a collection: those of two texts. -/
def fieldBytes : Nat := 48

/-- The bytes that the result of a worker takes in a collection. -/
def resultBytes : Nat := 48

/-- The bytes that a token takes in a collection, apart from the characters of
its name. -/
def tokenBytes : Nat := 40

/-- The number of texts that fit the largest set. It has `2 ^ 58` slots: a slot
takes one byte beside its text, so that twice as many are too much. -/
def maxTextSet : Nat := 7 * (1 <<< 55)

/-- The number of fields that fit the largest record. It has `2 ^ 57` slots. -/
def maxRecord : Nat := 7 * (1 <<< 54)

/-- Make room for a list. -/
def forList (itemBytes count : Nat) : Ending Unit :=
  if itemBytes * count ≤ maxBytes then .returned ()
  else .panicked "capacity overflow"

/-- Make room for a set or a record, if the largest one takes no more than `most`. -/
def forTable (most count : Nat) : Ending Unit :=
  if count ≤ most then .returned ()
  else .panicked "Hash table capacity overflow"

end Room

end Carousel
