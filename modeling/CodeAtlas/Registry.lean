import CodeAtlas.Reader

set_option autoImplicit false

/-! # The registry of parsers

Parsers are registered under languages and claim extensions. An extension belongs to the parser that
claimed it last; a language keeps its place and gets its newest parser. -/

namespace CodeAtlas

/-- The parsers by language and by extension. -/
structure Registry where
  byLanguage : Dict String Parser
  byExtension : Dict String Parser

namespace Registry

/-- The registry without parsers. -/
def empty : Registry := ⟨.empty, .empty⟩

/-- Register a parser under a language; its extensions are claimed in lower case. -/
def register (r : Registry) (language : String) (p : Parser) : Registry where
  byLanguage := r.byLanguage.insert language p
  byExtension := p.extensions.foldl (fun d e => d.insert (Unicode.lower e) p) r.byExtension

/-- The first parser of a list that says it can parse a file. -/
def firstAble (path : String) : List Parser → Except Fault (Option Parser)
  | [] => .ok none
  | p :: rest => do
    if ← p.canParse path then return some p
    else firstAble path rest

/-- The parser of a file: the one that claimed its extension, or else the first, by language, that says it
    can parse the file. -/
def parserFor (r : Registry) (path : String) : Except Fault (Option Parser) :=
  match r.byExtension.get? (Path.extension path) with
  | some p => .ok (some p)
  | none => firstAble path r.byLanguage.values

def parserForLanguage (r : Registry) (language : String) : Option Parser :=
  r.byLanguage.get? language

/-- The output for what a parser gave: its own, or one with the message of what it threw. -/
def outputOf : Except Thrown ParseOutput → Except Fault ParseOutput
  | .ok output => .ok output
  | .error thrown => thrown.message.map fun message => .failed [message]

/-- Parse a file. A file without a parser gives an empty output, and a parser that fails an output with its
    message. -/
def parse (r : Registry) (disk : FileTree) (path : String) (root : Option String) :
    Except Fault ParseOutput := do
  match ← r.parserFor path with
  | none => return .failed []
  | some p => outputOf (p.parse disk path root)

/-- Every claimed extension, sorted. -/
def supportedExtensions (r : Registry) : List String := Text.sort r.byExtension.keys

/-- The languages, in the order of their first registration. -/
def languages (r : Registry) : List String := r.byLanguage.keys

end Registry

end CodeAtlas
