/-!
# Faults of YAML text

A text is refused at one of five levels: its characters, its tokens, the grammar that
puts tokens together, the graph of anchors and aliases, or the values that its
scalars denote.  A scalar can also be refused by the kind of value that its form or
its tag promises.
-/

namespace AsyncTypes.Yaml

/-- The level at which a text is malformed. -/
inductive Level
  | character
  | token
  | grammar
  | graph
  | value
deriving DecidableEq, Inhabited

/-- What a level complains about. -/
def Level.complaint : Level → String
  | .character => "special characters are not allowed"
  | .token => "the text cannot be divided into tokens"
  | .grammar => "the tokens do not form a document"
  | .graph => "the anchors and aliases do not form one document"
  | .value => "a node does not denote a value"

/-- Why a text denotes no value. -/
inductive Fault
  | malformed (level : Level)
  | wrongType (message : String)
  | badValue (message : String)
  | badKey (message : String)
  | badIndex (message : String)
  | badAttribute (message : String)
  | overflow (message : String)
deriving DecidableEq, Inhabited

end AsyncTypes.Yaml
