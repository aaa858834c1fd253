import TypedGrammar.Analysis.Error
import TypedGrammar.Dialect
import TypedGrammar.Source.Parser

/-!
# Requests for code

A declaration asks for code by its attributes: one names the grammar source, written in line or in
a file, and others may choose the start rule and the dialect. `Options.ofAttributes?` reads them.

What an attribute is given is parsed elsewhere, and `ε` is what the parser says of one that is
malformed.
-/

namespace TypedGrammar.Request

variable {ε : Type}

/-- What is wrong with a request. -/
inductive RequestError (ε : Type := Empty) where
  | missingSource
  | multipleSources
  | duplicateAttribute (name : String)
  | notAString (name : String)
  | unknownDialect (name : String)
  | unreadableFile (path cause : String)
  | invalidName (error : StructureError)
  | parse (error : ParseError)
  | analysis (error : AnalysisError)
  /-- The parser of attributes has found this one malformed. -/
  | attribute (error : ε)

instance toStringEmpty : ToString Empty :=
  ⟨nofun⟩

def RequestError.message [ToString ε] : RequestError ε → String
  | .missingSource => "no grammar source provided, expected \x60bnf_inline\x60 or \x60bnf_file\x60"
  | .multipleSources => "at most one grammar source can be provided"
  | .duplicateAttribute name => String.join ["attribute \x60", name, "\x60 given more than once"]
  | .notAString name => String.join ["attribute \x60", name, "\x60 must be a string literal"]
  | .unknownDialect name =>
    String.join ["unknown notation \x60", name, "\x60, expected \x60bnf\x60 or \x60ebnf\x60"]
  | .unreadableFile path cause => String.join ["read grammar file ", path, ": ", cause]
  | .invalidName error => String.join ["invalid name: ", error.message]
  | .parse error => error.message
  | .analysis error => error.message
  | .attribute error => toString error

/-- What an attribute is given: a string literal, anything else that can be parsed, or what cannot. -/
inductive AttributeValue (ε : Type := Empty) where
  | text (value : String)
  | other
  | malformed (error : ε)
  deriving DecidableEq, Repr

structure Attribute (ε : Type := Empty) where
  path : String
  value : AttributeValue ε
  deriving DecidableEq, Repr

inductive Key where
  | inline
  | file
  | start
  | dialect
  deriving DecidableEq, Repr

def Key.path : Key → String
  | .inline => "bnf_inline"
  | .file => "bnf_file"
  | .start => "bnf_start"
  | .dialect => "bnf_notation"

/-- The attribute of this name; other attributes are none of ours. -/
def Key.ofPath? (path : String) : Option Key :=
  [.inline, .file, .start, .dialect].find? (·.path = path)

inductive Source where
  | inline (text : String)
  | file (path : String)
  deriving DecidableEq, Repr

/-- What a request asks for. -/
structure Options where
  source : Source
  start : Option String
  dialect : Dialect
  deriving DecidableEq, Repr

structure Settings where
  sources : List Source
  start : Option String
  dialect : Option String
  deriving DecidableEq, Repr

namespace Settings

/-- Nothing read yet. -/
def empty : Settings :=
  ⟨[], none, none⟩

/-- Sets what may be set once. -/
def setOnce (key : Key) (slot : Option String) (value : String) :
    Except (RequestError ε) (Option String) :=
  if slot.isSome then .error (.duplicateAttribute key.path) else .ok (some value)

/-- Takes the value of one attribute. -/
def set (s : Settings) (value : String) : Key → Except (RequestError ε) Settings
  | .inline => .ok { s with sources := s.sources ++ [.inline value] }
  | .file => .ok { s with sources := s.sources ++ [.file value] }
  | .start => (setOnce .start s.start value).map fun slot => { s with start := slot }
  | .dialect => (setOnce .dialect s.dialect value).map fun slot => { s with dialect := slot }

/-- Reads one attribute. -/
def add (s : Settings) (a : Attribute ε) : Except (RequestError ε) Settings :=
  match Key.ofPath? a.path with
  | none => .ok s
  | some key =>
    match a.value with
    | .text value => s.set value key
    | .other => .error (.notAString key.path)
    | .malformed error => .error (.attribute error)

/-- The dialect of this name, or the line oriented one if none is named. -/
def dialectNamed : Option String → Except (RequestError ε) Dialect
  | some name =>
    match Dialect.named? name with
    | some d => .ok d
    | none => .error (.unknownDialect name)
  | none => .ok .bnf

/-- What the attributes ask for, once all are read. -/
def finish (s : Settings) : Except (RequestError ε) Options :=
  match s.sources with
  | [] => .error .missingSource
  | [source] => (dialectNamed s.dialect).map fun d => ⟨source, s.start, d⟩
  | _ => .error .multipleSources

end Settings

/-- What the attributes of a declaration ask for. -/
def Options.ofAttributes? (attributes : List (Attribute ε)) : Except (RequestError ε) Options := do
  (← attributes.foldlM Settings.add .empty).finish

end TypedGrammar.Request
