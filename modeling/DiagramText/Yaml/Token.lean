import DiagramText.Yaml.Cursor

/-!
# Tokens of YAML text

The structure of a text is written by indentation or by brackets; tokens write both in the same way,
with a start and an end for every collection.  `Token.name` is the word for a token in messages.
-/

namespace DiagramText.Yaml

/-- A line that starts with a percent sign. -/
inductive Directive where
  | version (major minor : Nat)
  | handle (handle expansion : String)
  | reserved
deriving Repr, DecidableEq

/-- What a token says. -/
inductive TokenKind where
  | streamEnd
  | directive (d : Directive)
  | documentStart
  | documentEnd
  | blockSequenceStart
  | blockMappingStart
  | blockEnd
  | flowSequenceStart
  | flowSequenceEnd
  | flowMappingStart
  | flowMappingEnd
  | key
  | value
  | blockEntry
  | flowEntry
  | reference (name : String)
  | anchor (name : String)
  | tag (handle : Option String) (suffix : String)
  | scalar (text : String) (plain : Bool)
deriving Repr, DecidableEq

/-- A token and the line it starts on, counted from zero. -/
structure Token where
  kind : TokenKind
  line : Nat
deriving Repr, DecidableEq

/-- The word for a kind of token. -/
def TokenKind.name : TokenKind → String
  | streamEnd => "<stream end>"
  | directive _ => "<directive>"
  | documentStart => "<document start>"
  | documentEnd => "<document end>"
  | blockSequenceStart => "<block sequence start>"
  | blockMappingStart => "<block mapping start>"
  | blockEnd => "<block end>"
  | flowSequenceStart => "["
  | flowSequenceEnd => "]"
  | flowMappingStart => "\x7b"
  | flowMappingEnd => "\x7d"
  | key => "?"
  | value => ":"
  | blockEntry => "-"
  | flowEntry => ","
  | reference _ => "<alias>"
  | anchor _ => "<anchor>"
  | tag _ _ => "<tag>"
  | scalar _ _ => "<scalar>"

/-- The failure of a text in which `t` stands where something else is expected. -/
def Token.fail {α : Type} (t : Token) (expected : String) : Except Failure α :=
  .error (.malformed s!"{expected} {Text.quoted t.kind.name}" t.line)

end DiagramText.Yaml
