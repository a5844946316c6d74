-- Rankings are scored as they are written. In a request the operands of an operator stand behind it one
-- by one, or packed into one list, and which of the two it is shows in the first item of that list only.
-- No ranking that is built of attributes, numbers and operators is taken for another one, however it
-- is nested, unless an attribute has the name of a search; nor is full-text search in several fields.
import Folio.Collection.Score
import Folio.Proofs.UnitFactors
import Folio.Query.Compile

namespace Folio

open Collection

/-! ## What rankings mean -/

namespace Combination

def ofToken? (token : String) : Option Combination := all.find? (·.token == token)

theorem ofToken?_token (c : Combination) : ofToken? c.token = some c := by
  cases c <;> decide

/-- One score of several. -/
def total : Combination → List Float → Float
  | sum, scores => scores.foldl (· + ·) 0.0
  | max, scores => greatest scores
  | product, scores => scores.foldl (· * ·) 1.0

theorem combined_token (c : Combination) (scores : List Float) :
    combined (.text c.token) scores = .ok (c.total scores) := by
  cases c <;> rfl

/-- A product of two starts from one, which does not show. -/
theorem total_product (x y : Float) : product.total [x, y] = x * y := by
  change 1.0 * x * y = x * y
  rw [Number.one_mul_float]

end Combination

namespace RankNode

mutual

/-- The score of a document: the number in an attribute, a constant itself, or the scores of all
operands in their order, combined. -/
def evaluate (doc : Fields) : RankNode → Except Failure Float
  | node .attr attr _ _ _ => attributeScore doc (attr.getD "")
  | node .constant _ constant _ _ => constantScore constant
  | node .operator _ _ operator operands =>
    match operator.bind Combination.ofToken? with
    | some c => (evaluateAll doc operands).map c.total
    | none => .error (.unsupportedRank (.ofOption .text operator))

def evaluateAll (doc : Fields) : List RankNode → Except Failure (List Float)
  | [] => .ok []
  | n :: rest => do
    let first ← evaluate doc n
    let others ← evaluateAll doc rest
    return first :: others

end

mutual

/-- A ranking in which nothing is missing, of attributes that do not have the name of a search,
numbers, and operators that combine scores. -/
def Plain : RankNode → Prop
  | node kind attr constant operator operands =>
    (node kind attr constant operator operands).complaint? = none ∧
      match kind with
      | .attr => attr ≠ some "BM25" ∧ attr ≠ some "ANN"
      | .constant => (Amount.ofValue? constant).isSome = true
      | .operator => (∃ c : Combination, operator = some c.token) ∧ PlainAll operands

def PlainAll : List RankNode → Prop
  | [] => True
  | n :: rest => n.Plain ∧ PlainAll rest

end

/-! ## Rankings that are built -/

/-- What stands behind an operator, if it can be told from the name of a search and from operands that
are packed into a list. -/
def Bare (v : Value) : Prop :=
  v ≠ .text "BM25" ∧ v ≠ .text "ANN" ∧
    ∀ first rest, v = .list (first :: rest) → startsWithName [first] = true

theorem amount_bare {v : Value} (h : (Amount.ofValue? v).isSome = true) : Bare v := by
  refine ⟨?_, ?_, fun first rest hv => ?_⟩
  · rintro rfl
    cases h
  · rintro rfl
    cases h
  · subst hv
    cases h

theorem compile_bare {n : RankNode} (h : n.Plain) : Bare n.compile := by
  obtain ⟨kind, attr, constant, operator, operands⟩ := n
  unfold Plain at h
  obtain ⟨hcomplete, hkind⟩ := h
  cases kind with
  | attr =>
    cases attr with
    | none => cases hcomplete
    | some name =>
      obtain ⟨hfirst, hsecond⟩ := hkind
      refine ⟨?_, ?_, fun first rest hv => by cases hv⟩
      · rintro ⟨⟩
        exact hfirst rfl
      · rintro ⟨⟩
        exact hsecond rfl
  | constant => exact amount_bare hkind
  | operator =>
    obtain ⟨⟨c, rfl⟩, -⟩ := hkind
    refine ⟨(nomatch ·), (nomatch ·), ?_⟩
    rintro first rest ⟨⟩
    rfl

theorem compileAll_bare {nodes : List RankNode} (h : PlainAll nodes) :
    ∀ v ∈ compileAll nodes, Bare v := by
  induction nodes with
  | nil => exact fun v hv => nomatch hv
  | cons n rest ih =>
    obtain ⟨hn, hrest⟩ := h
    exact List.forall_mem_cons.mpr ⟨compile_bare hn, ih hrest⟩

/-- Behind an operator, bare operands are taken one by one. -/
theorem score_operands (doc : Fields) (head : Value) {operands : List Value}
    (h : ∀ v ∈ operands, Bare v) :
    score doc (.list (head :: operands)) = (scores doc operands).bind (combined head) := by
  match operands with
  | [] =>
    simp only [score]
    rfl
  | [v] =>
    have hlist := (h v List.mem_cons_self).2.2
    match v with
    | .list (first :: rest) =>
      -- a list of its own, not a pack of operands
      rw [score, if_pos (hlist first rest rfl), scores, scores]
      cases score doc (.list (first :: rest)) <;> rfl
    | .list [] | .null | .scalar _ | .object _ =>
      simp only [score]
      rfl
  | [first, second] =>
    obtain ⟨hwords, hvector, -⟩ := h first List.mem_cons_self
    rw [score]
    · rfl
    · rintro text ⟨⟩
      exact hwords rfl
    · rintro vector ⟨⟩
      exact hvector rfl
    · simp
  | first :: second :: third :: rest =>
    rw [score]
    · rfl
    all_goals simp

mutual

theorem score_compile (doc : Fields) : (n : RankNode) → n.Plain →
    score doc n.compile = n.evaluate doc
  | node kind attr constant operator operands, h => by
    unfold Plain at h
    obtain ⟨hcomplete, hkind⟩ := h
    cases kind with
    | attr =>
      cases attr with
      | none => cases hcomplete
      | some name =>
        unfold compile evaluate Value.ofOption
        exact score.eq_1 doc name
    | constant =>
      unfold compile evaluate
      match constant with
      | .int _ | .float _ | .flag _ => simp only [score]
    | operator =>
      obtain ⟨⟨c, rfl⟩, hoperands⟩ := hkind
      have hall := scores_compileAll doc operands hoperands
      unfold compile evaluate
      rw [score_operands doc _ (compileAll_bare hoperands), hall, Option.bind_some,
        Combination.ofToken?_token]
      cases evaluateAll doc operands with
      | error e => rfl
      | ok found => exact c.combined_token found

theorem scores_compileAll (doc : Fields) : (nodes : List RankNode) → PlainAll nodes →
    scores doc (compileAll nodes) = evaluateAll doc nodes
  | [], _ => by simp [compileAll, scores, evaluateAll]
  | n :: rest, h => by
    unfold compileAll scores evaluateAll
    rw [score_compile doc n h.1, scores_compileAll doc rest h.2]

end

end RankNode

/-! ## Full-text search in several fields -/

/-- Operands that are packed into a list are taken out of it, unless the list starts with a name. -/
theorem score_packed (doc : Fields) (head : Value) {first : Value} (rest : List Value)
    (h : startsWithName [first] = false) :
    score doc (.list [head, .list (first :: rest)]) =
      (scores doc (first :: rest)).bind (combined head) := by
  rw [score, if_neg (by rw [h]; decide)]
  rfl

namespace TextField

/-- The share of a text in a field. -/
def share (f : TextField) (doc : Fields) (text : String) : Float :=
  let held := Text.tokens (doc.get f.field)
  if held.isEmpty then 0.0
  else (held.countP (Text.tokens (.text text)).contains).toFloat / held.length.toFloat.sqrt

/-- What a field adds to the score of a document: its share by its weight. -/
def part (f : TextField) (doc : Fields) (text : String) : Float :=
  if f.weight == 1.0 then f.share doc text else f.weight * f.share doc text

theorem score_textRank (f : TextField) (doc : Fields) (text : String) :
    score doc (Query.textRank f.field text) = .ok (f.share doc text) := by
  have hrank : score doc (Query.textRank f.field text) =
      textScore doc (.text f.field) (.text text) := by
    simp only [Query.textRank, score]
  rw [hrank]
  unfold textScore share attributeOf
  dsimp only [bind, Except.bind]
  split <;> rfl

theorem score_weighted (f : TextField) (doc : Fields) (text : String) :
    score doc (Query.weighted text f) = .ok (f.part doc text) := by
  unfold Query.weighted part
  split
  · exact f.score_textRank doc text
  · have hweight : score doc (.float f.weight) = .ok f.weight := by
      simp only [score]
      rfl
    rw [score_packed doc _ _ rfl, scores, scores, scores, hweight, f.score_textRank doc text,
      ← Combination.total_product]
    exact Combination.product.combined_token _

theorem scores_weighted (fields : List TextField) (doc : Fields) (text : String) :
    scores doc (fields.map (Query.weighted text)) = .ok (fields.map (·.part doc text)) := by
  induction fields with
  | nil => simp only [List.map_nil, scores]
  | cons f rest ih =>
    rw [List.map_cons, scores, f.score_weighted doc text, ih]
    rfl

/-- A field with its weight is never taken for a name. -/
theorem startsWithName_weighted (f : TextField) (text : String) :
    startsWithName [Query.weighted text f] = false := by
  unfold Query.weighted
  dsimp only
  split <;> rfl

end TextField

namespace QueryConfig

/-- Full-text search is what ranks the documents. -/
structure RanksByText (c : QueryConfig) : Prop where
  mode : c.queryMode = .fulltext
  searched : c.search ≠ ""
  /-- There is no ranking of the user's own. -/
  simple : c.rankingMode = .simple ∨ c.ranking = none

theorem compileRank_text {c : QueryConfig} (h : c.RanksByText) (registry : Registry) :
    Query.compileRank c registry = Query.compileTextRank c registry := by
  have hsearched : (c.queryMode == .fulltext && c.search != "") = true := by
    rw [Bool.and_eq_true, beq_iff_eq, bne_iff_ne]
    exact ⟨h.mode, h.searched⟩
  unfold Query.compileRank
  rw [if_pos hsearched]
  rcases h.simple with hsimple | hnone
  · rw [hsimple]
  · rw [hnone]
    cases c.rankingMode <;> rfl

theorem compileTextRank_several {c : QueryConfig} (h : 2 ≤ c.textFields.length)
    (registry : Registry) :
    Query.compileTextRank c registry =
      .ok (.list [.text c.combination.token,
        .list (c.textFields.map (Query.weighted c.search))]) := by
  unfold Query.compileTextRank
  match hfields : c.textFields with
  | [] | [_] =>
    rw [hfields] at h
    simp at h
  | _ :: _ :: _ => rfl

/-- The parts that the fields add are combined. -/
theorem score_texts (c : QueryConfig) (doc : Fields) (h : c.textFields ≠ []) :
    score doc (.list [.text c.combination.token,
        .list (c.textFields.map (Query.weighted c.search))]) =
      .ok (c.combination.total (c.textFields.map (·.part doc c.search))) := by
  have hscores := TextField.scores_weighted c.textFields doc c.search
  cases hfields : c.textFields with
  | nil => exact absurd hfields h
  | cons f rest =>
    rw [hfields, List.map_cons] at hscores
    rw [List.map_cons, score_packed doc _ _ (f.startsWithName_weighted c.search), hscores]
    exact c.combination.combined_token _

end QueryConfig

/-- A ranking that is built scores a document as it reads, with the same failures if a number is too
large. Full-text search in several fields combines their shares by their weights, and that is the
ranking wherever full-text search is what ranks the documents. -/
theorem scored_as_written (doc : Fields) :
    (∀ n : RankNode, n.Plain → score doc n.compile = n.evaluate doc) ∧
      ∀ (c : QueryConfig) (registry : Registry), 2 ≤ c.textFields.length →
        ∃ rank, Query.compileTextRank c registry = .ok rank ∧
          (c.RanksByText → Query.compileRank c registry = .ok rank) ∧
          score doc rank = .ok (c.combination.total (c.textFields.map (·.part doc c.search))) := by
  refine ⟨RankNode.score_compile doc, fun c registry h => ?_⟩
  have hsome : c.textFields ≠ [] := fun hnone => absurd h (by rw [hnone]; decide)
  have hrank := QueryConfig.compileTextRank_several h registry
  exact ⟨_, hrank, fun htext => (QueryConfig.compileRank_text htext registry).trans hrank,
    c.score_texts doc hsome⟩

/-- An attribute with the name of a search makes a search of the operator in front of it. -/
example : score [("BM25", .int 1), ("stars", .int 3)]
    (RankNode.node .operator none .null (some "Sum") [.node .attr (some "BM25") .null none [],
      .node .attr (some "stars") .null none []]).compile = .ok 0.0 := by decide +kernel

def ratedDoc : Fields :=
  [("id", .text "1"), ("stars", .int 3), ("title", .text "Red fox"), ("body", .text "a red, red hen")]

/-- The sum of a product of one and of the greater of two, one of which the document does not have. -/
def ratedTree : RankNode :=
  .node .operator none .null (some "Sum") [
    .node .operator none .null (some "Product") [.node .attr (some "stars") .null none []],
    .node .operator none .null (some "Max") [
      .node .constant none (.float 2.5) none [], .node .attr (some "votes") .null none []]]

def ratedTexts : QueryConfig :=
  { QueryConfig.initial with
    queryMode := .fulltext
    searchText := " red "
    textFields := [⟨"title", 1.0⟩, ⟨"body", 2.0⟩]
    combination := .max }

theorem rated_doc_scored :
    ratedTree.Plain ∧ score ratedDoc ratedTree.compile = .ok 5.5 ∧
      2 ≤ ratedTexts.textFields.length ∧ ratedTexts.RanksByText ∧
      ∃ rank, Query.compileRank ratedTexts .empty = .ok rank ∧
        score ratedDoc rank =
          .ok (Combination.max.total (ratedTexts.textFields.map (·.part ratedDoc "red"))) := by
  obtain ⟨htrees, htexts⟩ := scored_as_written ratedDoc
  have hplain : ratedTree.Plain := by
    have hstars : (RankNode.node .attr (some "stars") .null none []).Plain :=
      ⟨rfl, by decide, by decide⟩
    have hvotes : (RankNode.node .attr (some "votes") .null none []).Plain :=
      ⟨rfl, by decide, by decide⟩
    have hconstant : (RankNode.node .constant none (.float 2.5) none []).Plain := ⟨rfl, rfl⟩
    exact ⟨rfl, ⟨.sum, rfl⟩, ⟨rfl, ⟨.product, rfl⟩, hstars, trivial⟩,
      ⟨rfl, ⟨.max, rfl⟩, hconstant, hvotes, trivial⟩, trivial⟩
  have hseveral : 2 ≤ ratedTexts.textFields.length := by decide
  have htext : ratedTexts.RanksByText := ⟨rfl, by decide, .inl rfl⟩
  obtain ⟨rank, -, hrank, hscore⟩ := htexts ratedTexts .empty hseveral
  exact ⟨hplain, (htrees _ hplain).trans (by decide +kernel), hseveral, htext, rank, hrank htext,
    hscore⟩

end Folio
