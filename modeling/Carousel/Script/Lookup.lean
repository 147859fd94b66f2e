/-
# Looking up scripts by name

The bundled script is found by its name alone, whatever fallback is configured.
Any other name needs a fallback path, whose file is read as the body.
-/

import Carousel.Fault

namespace Carousel

/-- Where to find a script: a name, and a file for when the name is not that of
the bundled script. -/
structure ScriptSource where
  name : String
  fallbackPath : Option String
  deriving DecidableEq

namespace ScriptSource

/-- The source of the bundled script. -/
def bundled : ScriptSource where
  name := Script.bundledName
  fallbackPath := none

/-- The script at a source. -/
def resolve (source : ScriptSource) (tree : FileTree) : Except Fault Script :=
  if source.name = Script.bundledName then .ok Script.bundled
  else
    match source.fallbackPath with
    | none => .error (.scriptNotFound source.name)
    | some path =>
      match tree.readText path with
      | .error cause => .error (.scriptLoad source.name path cause)
      | .ok body => .ok ⟨source.name, body⟩

end ScriptSource

end Carousel
