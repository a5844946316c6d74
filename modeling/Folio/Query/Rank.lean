-- Rankings that a user builds: trees of attributes, constants and operators.
import Folio.Intake.Readers
import Folio.Value.Finite

namespace Folio

/-- The kinds of nodes of a ranking. -/
inductive RankKind where
  | attr
  | constant
  | operator
  deriving DecidableEq

namespace RankKind

def all : List RankKind := [attr, constant, operator]

def name : RankKind → String
  | attr => "attribute"
  | constant => "constant"
  | operator => "operator"

def ofName? (name : String) : Option RankKind := all.find? (·.name == name)

end RankKind

/-- A node of a ranking. What its kind does not use is kept, but means nothing. -/
inductive RankNode where
  | node (kind : RankKind) (attr : Option String) (constant : Value) (operator : Option String)
      (operands : List RankNode)

namespace RankNode

def kind : RankNode → RankKind
  | node kind _ _ _ _ => kind

def operands : RankNode → List RankNode
  | node _ _ _ _ operands => operands

/-- What is missing in a node of its kind. -/
def complaint? : RankNode → Option String
  | node .attr attr _ _ _ =>
    if attr.getD "" == "" then some "attribute node requires 'attribute'" else none
  | node .constant _ constant _ _ =>
    if constant.isNull then some "constant node requires 'constant'" else none
  | node .operator _ _ operator operands =>
    if operator.getD "" == "" || operands.isEmpty then
      some "operator node requires 'operator' and operands"
    else none

mutual

/-- A node with all its parts, as it is stored. -/
def toValue : RankNode → Value
  | node kind attr constant operator operands => .object [
      ("type", .text kind.name),
      ("attribute", .ofOption .text attr),
      ("constant", constant),
      ("operator", .ofOption .text operator),
      ("operands", .list (toValues operands))]

def toValues : List RankNode → List Value
  | [] => []
  | n :: rest => toValue n :: toValues rest

end

mutual

/-- The ranking as it stands in a request: an attribute by its name, a constant by itself, an
operator before its operands. -/
def compile : RankNode → Value
  | node .attr attr _ _ _ => .ofOption .text attr
  | node .constant _ constant _ _ => constant
  | node .operator _ _ operator operands =>
    .list (.ofOption .text operator :: compileAll operands)

def compileAll : List RankNode → List Value
  | [] => []
  | n :: rest => compile n :: compileAll rest

end

mutual

/-- The ranking with constants that have a place in JSON. -/
def finite : RankNode → RankNode
  | node kind attr constant operator operands =>
    node kind attr constant.finite operator (finiteAll operands)

def finiteAll : List RankNode → List RankNode
  | [] => []
  | n :: rest => finite n :: finiteAll rest

end

/-- How many nodes may stand inside one another. -/
def nestingLimit : Nat := 255

mutual

/-- Reads a node and its operands, when so many nodes may stand inside one another. -/
def readWithin : Nat → Value → Checked RankNode
  | levels + 1, .object fields =>
    let operands := match readOperands levels fields with
      | some checked => checked.within "operands"
      | none => .sound []
    let parts := node
      <$> Fields.needed fields "type" (Reader.word RankKind.ofName?)
      <*> Fields.optional fields "attribute" none (Reader.nullable Reader.text)
      <*> Fields.optional fields "constant" .null Reader.any
      <*> Fields.optional fields "operator" none (Reader.nullable Reader.text)
      <*> operands
    parts.holding complaint?
  | _, _ => .refused

/-- The operands among the fields, if there are any. -/
def readOperands (levels : Nat) : List (String × Value) → Option (Checked (List RankNode))
  | [] => none
  | (name, v) :: rest =>
    if name == "operands" then
      some (match v with
        | .list items => readAll levels items
        | _ => .refused)
    else readOperands levels rest

def readAll (levels : Nat) : List Value → Checked (List RankNode)
  | [] => .sound []
  | v :: rest => Checked.both ((readWithin levels v).map List.cons) (readAll levels rest)

end

/-- Reads a ranking. -/
def read : Reader RankNode := readWithin nestingLimit

end RankNode

end Folio
