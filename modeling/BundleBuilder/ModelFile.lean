import BundleBuilder.ClassDecl.Decoder

/-!
# Model files

A model file declares classes and may import further model files.
-/

set_option autoImplicit false

namespace BundleBuilder

open Yaml Yaml.Decoder

/-- The content of a model file: what it says about itself, the paths of the files it imports, and
its classes. -/
structure ModelFile where
  description? : Option String := none
  imports : List String := []
  classes : List ClassDecl := []
  deriving DecidableEq

namespace ModelFile

/-- Reads the header of a model file. -/
def decodeHeader : Decoder (Option String × List String) := fun node => do
  let fields ← record ["description", "imports"] node
  return (← fields.optional "description" none (nullable text),
    ← fields.optional "imports" [] (list text))

/-- Reads a model file. -/
def decode : Decoder ModelFile := fun node => do
  let fields ← record ["model", "classes"] node
  let (description?, imports) ← fields.optional "model" (none, []) decodeHeader
  let classes ← fields.optional "classes" [] (list ClassDecl.decode)
  return { description?, imports, classes }

/-- Reads a model file from its text. -/
def read (contents : String) : Except ReadError ModelFile := readText decode contents

end ModelFile

end BundleBuilder
