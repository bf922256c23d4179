import AsyncTypes.TypeScript.Compiler

/-!
# The generated file

The text of a generation is a heading that names the document, followed by the
blocks of its declarations, with an empty line between any two of them.
-/

namespace AsyncTypes

/-- What a generation gives: the text, the declared names in order and the warnings. -/
structure Generated where
  output : String
  declarations : List String
  warnings : List String
deriving DecidableEq, Inhabited

/-- The size of the text in bytes. -/
def Generated.size (generated : Generated) : Nat :=
  generated.output.utf8ByteSize

namespace TypeScript

/-- The comment at the head of the text. -/
def heading (document : Document) : String :=
  String.intercalate "\n"
    (["/**", " * Generated from AsyncAPI spec: " ++ commentText document.title ++ " v" ++
        commentText document.version] ++
      ((given? document.description).map fun text => " * " ++ commentText text).toList ++
      [" *", " * This file is auto-generated. Do not edit it manually.", " */"])

namespace Task

/-- The blocks of the declarations of a compilation. -/
def blocks (task : Task) (compilation : Compilation) : List String :=
  compilation.declarations.map (Declaration.render task.options)

/-- The whole text of a compilation. -/
def output (task : Task) (compilation : Compilation) : String :=
  String.intercalate "\n\n" (heading task.document :: task.blocks compilation) ++ "\n"

/-- What a compilation gives. -/
def generated (task : Task) (compilation : Compilation) : Generated :=
  { output := task.output compilation
    declarations := compilation.declarations.map (·.name)
    warnings := compilation.warnings }

end Task

/-- The compilation of a whole document. -/
def compile (document : Document) (options : Options) : Compilation :=
  let task := Task.ofDocument document options
  (task.collect.run task.start).2

/-- The declarations of a document. -/
def generate (document : Document) (options : Options) : Generated :=
  (Task.ofDocument document options).generated (compile document options)

/-- The declarations of a document, with a log of the generation. -/
def generateLogged (document : Document) (options : Options) : Logged Generated :=
  let generated := generate document options
  let useUnknown := Scalar.shown (.bool options.useUnknown)
  let opening := s!"Generating TypeScript for '{document.title}' v{document.version} (enum_type={options.enumStyle.word}, use_unknown={useUnknown})"
  let closing := s!"Generated {generated.declarations.length} declarations with {generated.warnings.length} warning(s)"
  let notices := (compile document options).notices.map Notice.entry
  ⟨generated, ⟨.info, .generation, opening⟩ :: notices ++ [⟨.info, .generation, closing⟩]⟩

end TypeScript

end AsyncTypes
