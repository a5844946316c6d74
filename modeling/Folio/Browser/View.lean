-- What a browser shows: a page of documents with their number, and how it came to be.
import Folio.Collection.Answer
import Folio.Envelope
import Folio.Fault

namespace Folio

/-- How the latest load went. -/
inductive LoadState where
  | idle
  | loading
  | success
  | failed
  deriving DecidableEq

def LoadState.name : LoadState → String
  | idle => "idle"
  | loading => "loading"
  | success => "success"
  | failed => "failed"

/-- What is told about a fault. -/
def Fault.info : Fault → ErrorInfo
  | .filter f => ⟨f.code, f.message, none⟩
  | .query f => ⟨f.code, f.message, none⟩
  | .browser f => ⟨f.code, f.message, f.kind?.map (fun kind => [("kind", .text kind)])⟩
  | f => ⟨"error", f.message, none⟩

/-- A fault that is shown. Faults are numbered, since the same words may come again. -/
structure Problem where
  number : Nat
  info : ErrorInfo

/-- What is shown of a collection. -/
structure View where
  rows : List Fields
  /-- The number of documents that pass the filters. -/
  total : Option Int
  aggregations : Option Fields
  groups : Option (List Fields)

namespace View

def blank : View := ⟨[], none, none, none⟩

def ofRows (rows : List Fields) (total : Option Int) : View := ⟨rows, total, none, none⟩

/-- The value that a backend has answered under a name. -/
def partOf (response : Value) (name : String) : Except Failure Value :=
  match response with
  | .object fields => .ok (Fields.get fields name)
  | v => .error (.noMethod v "get")

/-- The rows of an answer. -/
def rowsIn (response : Value) : Except Failure (List Value) := do
  let rows ← partOf response "rows"
  if rows.isTrue then Collection.elements rows else return []

/-- The number under a label among the aggregations of an answer. -/
def countIn (label : String) (response : Value) : Except Failure Int := do
  let aggregations ← partOf response "aggregations"
  if !aggregations.isTrue then return 0
  let count ← partOf aggregations label
  if count.isNull then return 0
  Collection.wholeOf count

/-- Reads the parts of an answer. Aggregations are left out unless they were asked for. -/
def read (rows : List Value) (total : Int) (aggregates : Bool) (response : Value) :
    Checked View :=
  let part (name : String) := if aggregates then Fields.get ((response.fields?).getD []) name
    else .null
  mk <$> (Reader.listOf Reader.fields (.list rows)).within "rows"
    <*> .sound (some total)
    <*> (Reader.nullable Reader.fields (part "aggregations")).within "aggregations"
    <*> (Reader.nullable (Reader.listOf Reader.fields) (part "aggregation_groups")).within
      "aggregation_groups"

/-- Takes rows away; the number of documents goes down with them. -/
def without (v : View) (kept : List Fields) : View :=
  { v with
    rows := kept
    total := v.total.map (fun n => max 0 (n - (v.rows.length - kept.length))) }

end View

end Folio
