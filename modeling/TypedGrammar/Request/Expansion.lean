import TypedGrammar.Code.Printer
import TypedGrammar.Request.Attribute

/-!
# Expansion of requests

The code that a declaration is given for its attributes: the module of the grammar it names, and a
constant that holds the grammar source.
-/

namespace TypedGrammar.Request

variable {ε : Type}

/-- The declaration that asks for code: its name, and its generic parameters as they are written
after `impl`, after its name, and as conditions. -/
structure Declaration where
  name : List Char
  parameters : List CodeToken
  arguments : List CodeToken
  conditions : List CodeToken

/-- The files that can be read: the text of the one at a path, or why it cannot be read. -/
abbrev Files := String → Except String (List Char)

/-- The place that file names are relative to. -/
def root : String :=
  "."

/-- The path of a file: a name that begins with a slash is one, and any other is below the root. -/
def locate (file : String) : String :=
  if file.toList.head? = some '/' then file else root ++ "/" ++ file

/-- The grammar source, and the expression that stands for it in code. -/
def Source.read (files : Files) : Source → Except (RequestError ε) (List Char × List CodeToken)
  | .inline source => .ok (source.toList, [.literal source.toList])
  | .file name =>
    match files name with
    | .ok text =>
      .ok (text,
        CodeToken.code ["include_str", "!"] ++
          CodeToken.parens [.literal (locate name).toList])
    | .error cause => .error (.unreadableFile (locate name) cause)

/-- The name that the text writes. -/
def nameOf (text : String) : Except (RequestError ε) Name :=
  (Name.ofText? text.toList).mapError .invalidName

/-- The name of the start rule, if one is asked for. -/
def startName : Option String → Except (RequestError ε) (Option Name)
  | some text => (nameOf text).map some
  | none => .ok none

/-- The constant that holds the grammar source. -/
def sourceConstant (d : Declaration) (source : List CodeToken) : List CodeToken :=
  CodeToken.code ["impl"] ++ d.parameters ++ [.plain d.name] ++ d.arguments ++ d.conditions ++
    CodeToken.braces (
      CodeToken.docComment " Source of the grammar the types were generated from.".toList ++
      CodeToken.code ["pub", "const", "GRAMMAR", ":", "&", "'static", "str", "="] ++ source ++
      CodeToken.code [";"])

/-- The code for a declaration with these attributes. -/
def expand (files : Files) (d : Declaration) (attributes : List (Attribute ε)) :
    Except (RequestError ε) (List CodeToken) := do
  let options ← Options.ofAttributes? attributes
  let (text, source) ← options.source.read files
  let g ← (Grammar.parse options.dialect text).mapError .parse
  let start ← startName options.start
  let a ← (g.analyze start).mapError .analysis
  let name ← nameOf (String.ofList d.name)
  let body := Code.render (Code.identifier name.snakeCase) (.ofAnalysis a)
  return body ++ sourceConstant d source

end TypedGrammar.Request
