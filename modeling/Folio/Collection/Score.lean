-- How well a document answers a ranking: by the words it shares with a text, by the angle between
-- two vectors, by the number in an attribute, or by a combination of such scores.
import Folio.Collection.Filter
import Folio.Number.Nearest

namespace Folio

namespace Failure

/-- A whole number beyond the range of floating numbers. -/
def tooLarge : Failure := ⟨.overflow, "int too large to convert to float"⟩

/-- Something that is no number and no text was to become a number. -/
def notNumber (v : Value) : Failure :=
  ⟨.badType, "float() argument must be a string or a real number, not '" ++ v.kindName ++ "'"⟩

/-- Two values that an operation is not defined on. -/
def noOperation (sign left right : String) : Failure :=
  ⟨.badType, "unsupported operand type(s) for " ++ sign ++ ": '" ++ left ++ "' and '"
    ++ right ++ "'"⟩

/-- A sequence can be repeated a whole number of times only. -/
def noRepetition (v : Value) : Failure :=
  ⟨.badType, "can't multiply sequence by non-int of type '" ++ v.kindName ++ "'"⟩

/-- Nothing can be repeated so often. -/
def tooManyCopies : Failure := ⟨.overflow, "cannot fit 'int' into an index-sized integer"⟩

def zeroDivision : Failure := ⟨.divisionByZero, "float division by zero"⟩

def noLength (v : Value) : Failure :=
  ⟨.badType, "object of type '" ++ v.kindName ++ "' has no len()"⟩

def unsupportedRank (head : Value) : Failure :=
  ⟨.badValue, "400 Bad Request: unsupported rank_by '" ++ head.shown ++ "'"⟩

end Failure

namespace Collection

/-! ## Numbers in vectors -/

/-- A number of a vector: whole numbers stay exact until they meet a floating one. -/
inductive Amount where
  | whole (n : Int)
  | real (x : Float)

namespace Amount

def kindName : Amount → String
  | whole _ => "int"
  | real _ => "float"

def toFloat : Amount → Except Failure Float
  | whole n => match Number.ofInt? n with
    | some x => .ok x
    | none => .error .tooLarge
  | real x => .ok x

def add : Amount → Amount → Except Failure Amount
  | whole m, whole n => .ok (whole (m + n))
  | a, b => do return real ((← a.toFloat) + (← b.toFloat))

def mul : Amount → Amount → Except Failure Amount
  | whole m, whole n => .ok (whole (m * n))
  | a, b => do return real ((← a.toFloat) * (← b.toFloat))

def ofValue? : Value → Option Amount
  | .int n => some (whole n)
  | .flag b => some (whole (if b then 1 else 0))
  | .float x => some (real x)
  | _ => none

end Amount

/-- Texts and lists can be repeated. -/
def isSequence : Value → Bool
  | .text _ | .list _ => true
  | _ => false

/-- The bound below which a sequence can be repeated. -/
def copyLimit : Int := (Nat.pow 2 63 : Nat)

/-- Why the product of a sequence and another item is nothing that could be added to a sum. A
sequence can be repeated a whole number of times, but is no number then either. -/
def repetition (sum : Amount) (sequence times : Value) : Failure :=
  match Amount.ofValue? times with
  | some (.whole n) =>
    if -copyLimit ≤ n && n < copyLimit then .noOperation "+" sum.kindName sequence.kindName
    else .tooManyCopies
  | _ => .noRepetition times

/-- The product of two items of vectors, which is to be added to a sum. -/
def product (sum : Amount) (a b : Value) : Except Failure Amount :=
  match Amount.ofValue? a, Amount.ofValue? b with
  | some x, some y => x.mul y
  | _, _ =>
    if isSequence a then .error (repetition sum a b)
    else if isSequence b then .error (repetition sum b a)
    else .error (.noOperation "*" a.kindName b.kindName)

/-- The sum of the products of two vectors, as far as the shorter goes. -/
def dot (sum : Amount) : List Value → List Value → Except Failure Amount
  | a :: as, b :: bs => do dot (← sum.add (← product sum a b)) as bs
  | _, _ => .ok sum

/-- The length of a vector; a vector without length counts as one. -/
def norm (v : List Value) : Except Failure Float := do
  let root := (← (← dot (.whole 0) v v).toFloat).sqrt
  return if root == 0.0 then 1.0 else root

/-- The cosine of the angle between two vectors. -/
def cosine (a b : List Value) : Except Failure Float := do
  let shared ← dot (.whole 0) a b
  let size := (← norm a) * (← norm b)
  let top ← shared.toFloat
  if size == 0.0 then throw .zeroDivision
  return top / size

/-- What can be gone through: the items of a list, the characters of a text, the names of an
object. -/
def elements : Value → Except Failure (List Value)
  | .list items => .ok items
  | .text s => .ok (s.toList.map (fun c => .text (String.singleton c)))
  | .object fields => .ok (fields.map (fun field => .text field.1))
  | v => .error (.notIterable v)

/-! ## Scores -/

/-- The share of a text in an attribute: the number of its tokens that the text has, over the root
of their number. -/
def textScore (doc : Fields) (attr text : Value) : Except Failure Float := do
  let held := Text.tokens (← attributeOf doc attr)
  if held.isEmpty then return 0.0
  let wanted := Text.tokens text
  let hits := held.countP wanted.contains
  return hits.toFloat / held.length.toFloat.sqrt

/-- The nearness of a vector to an attribute; an attribute that is no list is not near. -/
def vectorScore (doc : Fields) (attr vector : Value) : Except Failure Float := do
  match ← attributeOf doc attr with
  | .list items => cosine (← elements vector) items
  | _ => return 0.0

/-- The number in an attribute, zero if it holds none. -/
def attributeScore (doc : Fields) (name : String) : Except Failure Float :=
  match Amount.ofValue? (doc.get name) with
  | some a => a.toFloat
  | none => .ok 0.0

/-- The number that a constant is. -/
def constantScore (v : Value) : Except Failure Float :=
  match Amount.ofValue? v with
  | some a => a.toFloat
  | none => .error (.notNumber v)

/-- The greatest score; one that cannot be compared never takes the place of another. -/
def greatest : List Float → Float
  | [] => 0.0
  | x :: rest => rest.foldl (fun best y => if y > best then y else best) x

/-- Scores under an operator. -/
def combined (head : Value) (scores : List Float) : Except Failure Float :=
  match head with
  | .text "Sum" => .ok (scores.foldl (· + ·) 0.0)
  | .text "Max" => .ok (greatest scores)
  | .text "Product" => .ok (scores.foldl (· * ·) 1.0)
  | head => .error (.unsupportedRank head)

/-- Whether a value is a ranking in itself: a list that starts with a name. -/
def startsWithName : List Value → Bool
  | .text _ :: _ => true
  | _ => false

mutual

/-- The score of a document under a ranking. -/
def score (doc : Fields) : Value → Except Failure Float
  | .text name => attributeScore doc name
  | .list [] => .error .noFirst
  | .list [attr, .text "BM25", text] => textScore doc attr text
  | .list [attr, .text "ANN", vector] => vectorScore doc attr vector
  | .list [head, .list (first :: rest)] =>
    if startsWithName [first] then do
      combined head [← score doc (.list (first :: rest))]
    else do combined head (← scores doc (first :: rest))
  | .list (head :: args) => do combined head (← scores doc args)
  | v => constantScore v

/-- The scores under several rankings. -/
def scores (doc : Fields) : List Value → Except Failure (List Float)
  | [] => .ok []
  | rank :: rest => do
    let first ← score doc rank
    let others ← scores doc rest
    return first :: others

end

end Collection

end Folio
