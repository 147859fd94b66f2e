/-
# The command line of a stress run

Each setting has an option, which takes one value, and an environment variable,
which is looked at only if the option is not given. The value of an option is
the rest of the argument behind an equals sign, or else the next argument,
unless that begins with a dash. There are no other arguments. After `--` nothing
is an option any more.

Arguments are looked at from left to right. The value of an option that was
given as an argument of its own is read only when the next known option comes,
or the end. An argument that is not known is reported at once, even if a value
before it is still unread and bad.
-/

import Carousel.Stress.Config

namespace Carousel

namespace Stress

/-- A setting of a stress run. -/
inductive Setting
  | threads
  | calls
  | elements
  | tokens
  | flushEvery
  deriving DecidableEq

namespace Setting

/-- All settings, in the order in which they are listed for users. -/
def all : List Setting :=
  [.threads, .calls, .elements, .tokens, .flushEvery]

/-- The name of the option. -/
def option : Setting → String
  | .threads => "threads"
  | .calls => "calls"
  | .elements => "elements"
  | .tokens => "tokens"
  | .flushEvery => "flush-every"

/-- The name of the environment variable. -/
def variableName : Setting → String
  | .threads => "CYCLID_THREADS"
  | .calls => "CYCLID_CALLS"
  | .elements => "CYCLID_ELEMENTS"
  | .tokens => "CYCLID_TOKENS"
  | .flushEvery => "CYCLID_FLUSH_EVERY"

/-- The value of a setting that is given nowhere. As many threads are used as
the machine has processors. -/
def standard (processors : UInt64) : Setting → UInt64
  | .threads => processors
  | .calls => 10000
  | .elements => 7
  | .tokens => 2000
  | .flushEvery => 1000

end Setting

/-- Why a command line is not carried out. Two of the reasons are requests. -/
inductive UsageFlaw
  | unknownArgument
  | missingValue
  | badValue
  | repeatedOption
  | unwantedValue
  | helpRequested
  | versionRequested
  deriving DecidableEq

/-- The wording of a flaw. -/
def UsageFlaw.message : UsageFlaw → String
  | .unknownArgument => "unknown argument"
  | .missingValue => "an option needs a value"
  | .badValue => "a value is not a number of 64 bits"
  | .repeatedOption => "an option is given twice"
  | .unwantedValue => "an option takes no value"
  | .helpRequested => "help was asked for"
  | .versionRequested => "the version was asked for"

/-- What an argument looks like. -/
inductive Shape
  | endOfOptions
  | long (name : String) (value : Option String)
  | short (first : Char)
  | plain
  deriving DecidableEq

/-- What stands before and after the first equals sign. -/
def splitAtEquals : List Char → List Char × Option (List Char)
  | [] => ([], none)
  | c :: rest =>
    if c = '=' then ([], some rest)
    else
      let (before, after) := splitAtEquals rest
      (c :: before, after)

/-- What an argument looks like. A dash by itself is nothing special. -/
def Shape.ofArgument (argument : String) : Shape :=
  match argument.toList with
  | ['-', '-'] => .endOfOptions
  | '-' :: '-' :: rest =>
    let (name, value) := splitAtEquals rest
    .long (String.ofList name) (value.map String.ofList)
  | '-' :: first :: _ => .short first
  | _ => .plain

/-- The options that were read so far, and the last one with its value if it is
still to be read. -/
structure Options where
  given : List (Setting × UInt64) := []
  pending : Option (Setting × Option String) := none

namespace Options

/-- The value of a setting among those read. -/
def value? (setting : Setting) : List (Setting × UInt64) → Option UInt64
  | [] => none
  | (other, value) :: rest =>
    if other = setting then some value else value? setting rest

/-- Read the text of a value. -/
def parseValue (text : String) : Except UsageFlaw UInt64 :=
  match Numeral.parse Numeral.wordBound text with
  | .ok value => .ok (.ofNat value)
  | .error _ => .error .badValue

/-- Take an option with its value, if it has one. Each option is given once. -/
def accept (options : Options) (setting : Setting) :
    Option String → Except UsageFlaw Options
  | none => .error .missingValue
  | some text =>
    if (value? setting options.given).isSome then .error .repeatedOption
    else
      (parseValue text).map fun value =>
        { given := options.given ++ [(setting, value)], pending := none }

/-- Read the value that is still to be read. -/
def settle (options : Options) : Except UsageFlaw Options :=
  match options.pending with
  | none => .ok options
  | some (setting, text) => { options with pending := none }.accept setting text

/-- End at a request, once the value before it is read. -/
def request (options : Options) (flaw : UsageFlaw) : Except UsageFlaw Options :=
  options.settle.bind fun _ => .error flaw

/-- Take a long option. -/
def takeLong (options : Options) (name : String) (value : Option String) :
    Except UsageFlaw Options :=
  match Setting.all.find? fun setting => setting.option = name with
  | some setting =>
    options.settle.bind fun settled =>
      match value with
      | some text => settled.accept setting (some text)
      | none => .ok { settled with pending := some (setting, none) }
  | none =>
    if name = "help" ∨ name = "version" then
      if value.isSome then .error .unwantedValue
      else
        options.request
          (if name = "help" then .helpRequested else .versionRequested)
    else .error .unknownArgument

/-- Take a group of short options. Its first letter decides. -/
def takeShort (options : Options) (first : Char) : Except UsageFlaw Options :=
  if first = 'h' then options.request .helpRequested
  else if first = 'V' then options.request .versionRequested
  else .error .unknownArgument

/-- Take an argument that is no option: the value of the option before it. -/
def takePlain (options : Options) (argument : String) :
    Except UsageFlaw Options :=
  match options.pending with
  | some (setting, none) =>
    .ok { options with pending := some (setting, some argument) }
  | _ => .error .unknownArgument

/-- Take arguments from left to right. -/
def takeAll (options : Options) : List String → Except UsageFlaw Options
  | [] => options.settle
  | argument :: rest =>
    match Shape.ofArgument argument with
    | .endOfOptions =>
      if rest.isEmpty then options.settle else .error .unknownArgument
    | .long name value =>
      (options.takeLong name value).bind fun taken => takeAll taken rest
    | .short first =>
      (options.takeShort first).bind fun taken => takeAll taken rest
    | .plain =>
      (options.takePlain argument).bind fun taken => takeAll taken rest

/-- The value of a setting: from its option, or from its environment variable,
or the standard one. -/
def valueOf (options : Options) (environment : List (String × String))
    (processors : UInt64) (setting : Setting) : Except UsageFlaw UInt64 :=
  match value? setting options.given with
  | some value => .ok value
  | none =>
    match environment.lookup setting.variableName with
    | some text => parseValue text
    | none => .ok (setting.standard processors)

end Options

/-- The arguments that a command line and an environment stand for. -/
def Arguments.ofCommandLine (processors : UInt64) (arguments : List String)
    (environment : List (String × String)) : Except UsageFlaw Arguments := do
  let options ← Options.takeAll {} arguments
  let value := options.valueOf environment processors
  return {
    threads := ← value .threads
    calls := ← value .calls
    elements := ← value .elements
    tokens := ← value .tokens
    flushEvery := ← value .flushEvery }

end Stress

end Carousel
