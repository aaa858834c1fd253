import TypedGrammar.Code.Generation
import TypedGrammar.Code.Token

/-!
# Writing generated code

How each item is written as tokens. Types are named from inside the module by their identifier and
from the builders, which are a module within it, through `super`.
-/

namespace TypedGrammar.Code

open CodeToken

/-- Where an item stands: in the module of the types, or in the module of the builders within. -/
inductive Place where
  | types
  | builders
  deriving DecidableEq, Repr

/-- The path from the place to the types. -/
def Place.path : Place → List CodeToken
  | .types => []
  | .builders => code ["super", "::"]

/-- The type of the rule, as it is called at the place. -/
def typeTokens (naming : Naming) (place : Place) (rule : RuleId) : List CodeToken :=
  place.path ++ [.plain (naming.type rule)]

def argumentTokens (arguments : List (List CodeToken)) : List CodeToken :=
  if arguments = [] then [] else parens (commaSeparated arguments)

/-- The variant of the rule applied to arguments, as it is written at the place. -/
def variantTokens (naming : Naming) (place : Place) (rule : RuleId) (index : Nat)
    (arguments : List (List CodeToken)) : List CodeToken :=
  typeTokens naming place rule ++ code ["::"] ++ [.plain (naming.variant rule index)] ++
    argumentTokens arguments

def boxTokens (value : List CodeToken) : List CodeToken :=
  path ["std", "boxed", "Box", "new"] ++ parens value

/-- The field of the builder that holds its value. -/
def heldTokens : List CodeToken :=
  code ["self", ".", "0"]

mutual

/-- The expression as it is written at the place. -/
def Expr.tokens (naming : Naming) (place : Place) : Expr → List CodeToken
  | .input => code ["value"]
  | .previous => heldTokens
  | .parameter n => [numbered "p" n]
  | .boxed value => boxTokens (value.tokens naming place)
  | .variant rule index fields =>
    variantTokens naming place rule index (Expr.tokensOfAll naming place fields)

def Expr.tokensOfAll (naming : Naming) (place : Place) : List Expr → List (List CodeToken)
  | [] => []
  | value :: values => value.tokens naming place :: Expr.tokensOfAll naming place values

end

/-! ## Types -/

def fieldTokens (naming : Naming) (field : Field) : List CodeToken :=
  let type := typeTokens naming .types field.rule
  if field.boxed then path ["std", "boxed", "Box"] ++ angles type else type

/-- The variant at an index as it is declared. -/
def variantDeclTokens (naming : Naming) (rule : RuleId) (variant : List Field × Nat) :
    List CodeToken :=
  [.plain (naming.variant rule variant.2)] ++ argumentTokens (variant.1.map (fieldTokens naming))

def EnumItem.tokens (naming : Naming) (item : EnumItem) : List CodeToken :=
  docComment item.doc ++ derive ["Debug", "Clone", "PartialEq", "Eq", "Hash"] ++
    code ["pub", "enum"] ++ typeTokens naming .types item.rule ++
    braces (commaSeparated (item.variants.zipIdx.map (variantDeclTokens naming item.rule)))

/-- The statement that writes a field or a text. -/
def Write.tokens : Write → List CodeToken
  | .field n =>
    path ["std", "fmt", "Display", "fmt"] ++ parens ([numbered "f" n] ++ code [",", "f"]) ++
      code ["?", ";"]
  | .text line => code ["f", ".", "write_str"] ++ parens [.literal line.chars] ++ code ["?", ";"]

/-- The statements that display a variant; one that writes nothing leaves the formatter unused. -/
def writeTokens (writes : List Write) : List CodeToken :=
  if writes = [] then code ["let", "_", "=", "f", ";"] else writes.flatMap Write.tokens

/-- The arm that displays the variant at an index. -/
def armTokens (naming : Naming) (rule : RuleId) (arm : DisplayArm × Nat) : List CodeToken :=
  let bindings := (List.range arm.1.fields).map fun n => [numbered "f" n]
  variantTokens naming .types rule arm.2 bindings ++ code ["=>"] ++
    braces (writeTokens arm.1.writes ++ code ["Ok"] ++ parens unit)

def DisplayItem.tokens (naming : Naming) (item : DisplayItem) : List CodeToken :=
  let parameters :=
    code ["&", "self", ",", "f", ":", "&", "mut"] ++ path ["std", "fmt", "Formatter"] ++
      angles (code ["'_"])
  let body :=
    code ["match", "self"] ++ braces (item.arms.zipIdx.flatMap (armTokens naming item.rule))
  code ["impl"] ++ path ["std", "fmt", "Display"] ++ code ["for"] ++
    typeTokens naming .types item.rule ++
    braces (code ["fn", "fmt"] ++ parens parameters ++ code ["->"] ++
      path ["std", "fmt", "Result"] ++ braces body)

def ConversionItem.tokens (naming : Naming) (item : ConversionItem) : List CodeToken :=
  let sub := typeTokens naming .types item.sub
  code ["impl"] ++ path ["std", "convert", "From"] ++ angles sub ++ code ["for"] ++
    typeTokens naming .types item.sup ++
    braces (code ["fn", "from"] ++ parens (code ["value", ":"] ++ sub) ++ code ["->", "Self"] ++
      braces (item.body.tokens naming .types))

/-! ## Builders -/

/-- The type of a state of the rule's builder. -/
def stateTokens (naming : Naming) (rule : RuleId) : BuilderState → List CodeToken
  | .initial => [.plain (naming.builder rule)]
  | .growing => [.plain (naming.growing rule)]
  | .complete => code ["Ready"] ++ angles (typeTokens naming .builders rule)
  | .built => typeTokens naming .builders rule

/-- The state of the rule's builder that holds the value. -/
def holdTokens (naming : Naming) (rule : RuleId) (value : List CodeToken) :
    BuilderState → List CodeToken
  | .initial => [.plain (naming.builder rule)] ++ parens unit
  | .growing => [.plain (naming.growing rule)] ++ parens value
  | .complete => code ["Ready"] ++ parens value
  | .built => value

/-- The parameters of a method with their types. -/
def parameterTokens (naming : Naming) (parameters : List RuleId) : List CodeToken :=
  commaSeparated (parameters.zipIdx.map fun (rule, n) =>
    [numbered "p" n] ++ code [":"] ++ typeTokens naming .builders rule)

def functionTokens (name : List Char) (parameters result body : List CodeToken) : List CodeToken :=
  code ["pub", "fn"] ++ [.plain name] ++ parens parameters ++ code ["->"] ++ result ++ braces body

def StateMethod.tokens (naming : Naming) (rule : RuleId) : StateMethod → List CodeToken
  | .step method target =>
    functionTokens method.name (code ["self", ","] ++ parameterTokens naming method.parameters)
      (stateTokens naming rule target)
      (holdTokens naming rule (method.body.tokens naming .builders) target)
  | .build target =>
    functionTokens "build".toList (code ["self"]) (stateTokens naming rule target) heldTokens

def StateItem.tokens (naming : Naming) (rule : RuleId) (item : StateItem) : List CodeToken :=
  code ["impl"] ++ stateTokens naming rule item.state ++
    braces (item.methods.flatMap (StateMethod.tokens naming rule))

/-- The declaration of a type that holds one field. -/
def structTokens (type field : List CodeToken) : List CodeToken :=
  derive ["Debug", "Clone", "PartialEq", "Eq"] ++ code ["pub", "struct"] ++ type ++ parens field ++
    code [";"]

/-- The type of a builder that begins with nothing chosen, and how to get one. -/
def builderTypeTokens (naming : Naming) (rule : RuleId) : List CodeToken :=
  let builder := [.plain (naming.builder rule)]
  structTokens builder unit ++ code ["impl"] ++ typeTokens naming .builders rule ++
    braces (functionTokens "builder".toList [] builder (holdTokens naming rule [] .initial))

/-- The type of a builder that holds a growing value. -/
def growingTypeTokens (naming : Naming) (rule : RuleId) : List CodeToken :=
  structTokens [.plain (naming.growing rule)] (typeTokens naming .builders rule)

def constructorTokens (naming : Naming) (rule : RuleId) (function : Method) : List CodeToken :=
  functionTokens function.name (parameterTokens naming function.parameters)
    (typeTokens naming .builders rule) (function.body.tokens naming .builders)

def BuilderItem.tokens (naming : Naming) : BuilderItem → List CodeToken
  | .machine rule grows states =>
    builderTypeTokens naming rule ++ (if grows then growingTypeTokens naming rule else []) ++
      states.flatMap (StateItem.tokens naming rule)
  | .constructors rule functions =>
    code ["impl"] ++ typeTokens naming .builders rule ++
      braces (functions.flatMap (constructorTokens naming rule))

/-- The type that holds a value which can only be built. -/
def readyTokens : List CodeToken :=
  let parameter := code ["T"]
  let ready := code ["Ready"] ++ angles parameter
  docComment " A finished value waiting for \x60build\x60.".toList ++
    structTokens ready parameter ++ code ["impl"] ++ angles parameter ++ ready ++
    braces (functionTokens "build".toList (code ["self"]) parameter heldTokens)

/-! ## The module -/

def Module.tokens (naming : Naming) (m : Module) : List CodeToken :=
  code ["pub", "mod"] ++ [.plain m.name] ++
    braces (m.enums.flatMap (EnumItem.tokens naming) ++
      m.displays.flatMap (DisplayItem.tokens naming) ++
      m.conversions.flatMap (ConversionItem.tokens naming) ++
      code ["pub", "mod", "builders"] ++
      braces (readyTokens ++ m.builders.flatMap (BuilderItem.tokens naming)))

/-- The code for a compiled grammar, in a module of this name. -/
def render (name : List Char) (c : Compilation) : List CodeToken :=
  (generate name c).tokens (.ofModel c.model)

end TypedGrammar.Code
