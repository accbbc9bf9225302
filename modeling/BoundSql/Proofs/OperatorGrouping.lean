import BoundSql.Proofs.Enclosure
import BoundSql.Proofs.OperatorReading

/-!
# Operators keep their operands

An operand that is an operator itself is written in parentheses, and any other operand as it is.
The terms of an expression are then those of the tree of its operators (`Expr.terms_eq_write`), and
every operand is a unit, whatever stands beside it (`Expr.isUnit_terms`).

SQL of the caller is the exception: nobody looks into it.  Main statement:
`Expr.reads_as_meant_iff`.  Arithmetic reads as the tree of its operators exactly if whatever the
caller wrote into it is a unit; `Expr.rawSum_taken_apart` shows what becomes of a sum.
-/

namespace BoundSql

open Lexer (apart)
open Fragment (Closed ClosedClause closed_of_check closed_text closed_comma closedClause_concat)

/-! ## The terms of a fragment -/

namespace Fragment

variable {f g : Fragment}

/-- The terms of a fragment, if its brackets match. -/
def terms (f : Fragment) : List Term := (Term.read f.lexemes).getD []

/-- The terms of a fragment are those that have its lexemes. -/
theorem terms_eq {ts : List Term} (h : f.lexemes = Term.flattenAll ts) : f.terms = ts := by
  rw [terms, h, Term.read_flattenAll]
  rfl

/-- A text in one piece has the same terms as in two. -/
theorem terms_text_append (s t : String) (f : Fragment) :
    terms (.word (.verbatim (s ++ t)) :: f) = terms (s :: .word (.verbatim t) :: f) := by
  rw [terms, lexemes, symbols_text_append]
  rfl

/-- A closed fragment consists of its terms. -/
theorem Closed.flattenAll_terms (hf : f.Closed) : Term.flattenAll f.terms = f.lexemes := by
  obtain ⟨ts, hts⟩ := Term.exists_of_balanced hf.balanced
  rw [terms_eq hts.symm, hts]

/-- Closed fragments have their terms one behind another if the second begins apart. -/
theorem terms_append (hf : f.Closed) (hg : g.Closed) (hopens : g.opens) :
    (f ++ g).terms = f.terms ++ g.terms := by
  refine terms_eq ?_
  rw [lexemes_append hf.settled hopens, Term.flattenAll_append, hf.flattenAll_terms,
    hg.flattenAll_terms]

/-- They also have if the first one ends where no word is open. -/
theorem terms_append_of_apart (hf : f.Closed) (hg : g.Closed)
    (hapart : apart.after f.symbols = apart) : (f ++ g).terms = f.terms ++ g.terms := by
  refine terms_eq ?_
  rw [lexemes_append_of_apart hapart, Term.flattenAll_append, hf.flattenAll_terms,
    hg.flattenAll_terms]

/-- A closed fragment between two texts, a bracket each, is one group of its terms. -/
theorem terms_between (opening closing : String) {b : Bracket} (hg : g.Closed)
    (hopening : lexemes ([opening] : Fragment) = [.opening b])
    (hclosing : lexemes ([closing] : Fragment) = [.closing b])
    (hseam : apart.after (symbols ([opening] : Fragment)) = apart ∨
      Settled ([opening] : Fragment) ∧ (g ++ ([closing] : Fragment)).opens)
    (hopens : opens ([closing] : Fragment)) :
    terms (opening :: (g ++ ([closing] : Fragment))) = [.group b g.terms] := by
  refine terms_eq ?_
  have hinner : lexemes (g ++ ([closing] : Fragment)) =
      Term.flattenAll g.terms ++ [.closing b] := by
    rw [lexemes_append hg.settled hopens, hg.flattenAll_terms, hclosing]
  rw [Term.flattenAll, Term.flattenAll, List.append_nil, Term.flatten, ← hinner,
    ← List.singleton_append (l := lexemes _), ← hopening]
  rcases hseam with hapart | ⟨hsettled, hopens⟩
  · exact lexemes_append_of_apart hapart _
  · exact lexemes_append hsettled hopens

/-- In parentheses, terms are one term. -/
theorem terms_parens (hf : f.Closed) : f.parens.terms = [.group .parens f.terms] :=
  terms_between "(" ")" hf rfl rfl (.inl rfl) rfl

end Fragment

/-! ## Operands -/

/-- The terms of an expression. -/
def Expr.terms (d : Dialect) (e : Expr) : List Term := (e.fragment d).terms

/-- A text of the caller is closed. -/
def CallerText.Closed (x : CallerText) : Prop :=
  x.Admitted (fun t => Fragment.Closed [.word (.verbatim t)]) Fragment.Closed

/-- The expression may stand beside an operator: it is neither an operator nor an alias, and a
function, over a window or not, is called by a name. -/
def Expr.IsOperand : Expr → Prop
  | .column _ | .literal _ | .raw _ | .case .. | .coalesce _ | .subquery _ | .now | .truth _ => True
  | .call function _ _ | .window (.call function _ _) _ =>
    IsName (Fragment.terms ([.word (.verbatim function)] : Fragment))
  | .binary .. | .star | .aliased .. | .window .. => False

/-- The sign of an operator, with a blank on either side, is its mark. -/
theorem terms_sign (op : ArithOp) :
    Fragment.terms ([" ", .word (.verbatim op.sign), " "] : Fragment) = op.mark := by
  cases op <;> rfl

section

variable {d : Dialect} (hd : d.Closes)

include hd

/-- The parts of an expression are closed if the texts of the caller in it are. -/
theorem Expr.closed_parts {e : Expr} (h : ∀ x ∈ e.callerTexts, x.Closed) :
    ∀ k ∈ e.parts, (k.fragment d).Closed := by
  intro k hk
  refine k.closed hd fun x hx => h x ?_
  exact Node.flatMap_parts (.expr e) (List.mem_flatMap.mpr ⟨k, hk, hx⟩)

/-- So is the expression. -/
theorem Expr.closed {e : Expr} (h : ∀ x ∈ e.callerTexts, x.Closed) : (e.fragment d).Closed :=
  Node.closed hd (.expr e) h

/-- A function called by a name is a unit with its arguments. -/
theorem Expr.isUnit_call {function : String} {args : List Expr} {distinct : Bool}
    (htexts : ∀ x ∈ (Expr.call function args distinct).callerTexts, x.Closed)
    (h : IsName (Fragment.terms ([.word (.verbatim function)] : Fragment))) :
    IsUnit (Expr.terms d (.call function args distinct)) := by
  have hfunction : Closed ([.word (.verbatim function)] : Fragment) :=
    htexts (.function function) List.mem_cons_self
  have hlist := closed_comma (closed_fragments (Expr.closed_parts hd htexts))
  have hunit (f : Fragment) (hf : f.Closed) :
      IsUnit (Fragment.terms (([.word (.verbatim function)] : Fragment) ++ f.parens)) := by
    rw [Fragment.terms_append hfunction hf.parens rfl, Fragment.terms_parens hf]
    exact .call h _
  rw [Expr.terms, Expr.fragment]
  cases distinct with
  | false => exact hunit ("" :: _) (Fragment.closed_behind [""] hlist rfl)
  | true => exact hunit ("DISTINCT " :: _) (Fragment.closed_behind ["DISTINCT "] hlist rfl)

/-- `COALESCE` with its arguments is a unit. -/
theorem Expr.isUnit_coalesce {args : List Expr}
    (htexts : ∀ x ∈ (Expr.coalesce args).callerTexts, x.Closed) :
    IsUnit (Expr.terms d (.coalesce args)) := by
  have hlist := closed_comma (closed_fragments (Expr.closed_parts hd htexts))
  have hterms : Expr.terms d (.coalesce args) = Fragment.terms
      ((["COALESCE"] : Fragment) ++ (Fragment.comma (Expr.fragments d args)).parens) := by
    rw [Expr.terms, Expr.fragment]
    exact Fragment.terms_text_append "COALESCE" "(" _
  rw [hterms, Fragment.terms_append (closed_text "COALESCE" rfl) hlist.parens rfl,
    Fragment.terms_parens hlist]
  exact .call (.word (by decide)) _

/-- A `CASE` is a unit: its first word and its last are brackets. -/
theorem Expr.isUnit_case {branches : List Branch} {otherwise : Option Expr}
    (htexts : ∀ x ∈ (Expr.case branches otherwise).callerTexts, x.Closed) :
    IsUnit (Expr.terms d (.case branches otherwise)) := by
  obtain ⟨hbranches, helse⟩ := Expr.closed_caseParts (Expr.closed_parts hd htexts)
  have hinner := hbranches.closed.append helse.closed helse.opens
  have hopens := Fragment.opens_append hbranches.opens helse.opens
  have hgroup := Fragment.terms_between "CASE" " END" hinner rfl rfl
    (.inr ⟨rfl, Fragment.opens_append hopens (g := [" END"]) rfl⟩) rfl
  rw [List.append_assoc] at hgroup
  have hterms : Expr.terms d (.case branches otherwise) = [.group .case (Fragment.terms
      (.concat (Branch.fragments d branches) ++ Expr.elseFragment d otherwise))] := by
    rw [Expr.terms, Expr.fragment]
    exact hgroup
  rw [hterms]
  exact .group .case _

/-- A unit over a window is a unit. -/
theorem Expr.isUnit_window {function : Expr} {w : Window}
    (htexts : ∀ x ∈ (Expr.window function w).callerTexts, x.Closed)
    (h : IsUnit (function.terms d)) : IsUnit (Expr.terms d (.window function w)) := by
  have hparts := Expr.closed_parts hd htexts
  have hw : (w.fragment d).Closed := hparts (.window w) (by simp [Expr.parts])
  have hfunction : (function.fragment d).Closed := hparts (.expr function) (by simp [Expr.parts])
  have hover : Fragment.terms (" OVER " :: (w.fragment d).parens) =
      [.atom (.word "OVER"), .group .parens (w.fragment d).terms] := by
    rw [← List.singleton_append,
      Fragment.terms_append_of_apart (closed_text " OVER " rfl) hw.parens rfl,
      Fragment.terms_parens hw]
    rfl
  have hterms : Expr.terms d (.window function w) = (function.fragment d).terms ++
      [.atom (.word "OVER"), .group .parens (w.fragment d).terms] := by
    have happend := Fragment.terms_append hfunction
      (Fragment.closed_behind [" OVER "] hw.parens rfl) rfl
    rw [← hover, Expr.terms, Expr.fragment]
    simpa [Fragment.concat] using happend
  rw [hterms]
  exact .windowed h _

/-- Every operand is a unit, if it is not SQL of the caller. -/
theorem Expr.isUnit_terms
    (hnow : IsUnit (Fragment.terms ([.word (.verbatim d.currentTimestamp)] : Fragment)))
    {e : Expr} (htexts : ∀ x ∈ e.callerTexts, x.Closed) (h : e.IsOperand)
    (hraw : ∀ t, e = .raw t → IsUnit t.fragment.terms) : IsUnit (e.terms d) := by
  have hparts := Expr.closed_parts hd htexts
  cases e with
  | column c => exact .name (.dotted (.name c.table) (.name c.name))
  | literal v => exact .value v
  | raw t => exact hraw t rfl
  | star => cases h
  | call function args distinct => exact Expr.isUnit_call hd htexts h
  | binary left op right => cases h
  | aliased e name => cases h
  | case branches otherwise => exact Expr.isUnit_case hd htexts
  | coalesce args => exact Expr.isUnit_coalesce hd htexts
  | subquery q =>
    have hq : (q.fragment d).Closed := hparts (.select q) (by simp [Expr.parts])
    rw [Expr.terms, Expr.fragment, Fragment.terms_parens hq]
    exact .group _ _
  | window function w =>
    cases function with
    | call function args distinct =>
      have hcall := Expr.isUnit_call hd (fun x hx => htexts x (List.mem_append_left _ hx)) h
      exact Expr.isUnit_window hd htexts hcall
    | _ => cases h
  | now => exact hnow
  | truth p =>
    have hp : (p.fragment d).Closed := hparts (.predicate p) (by simp [Expr.parts])
    rw [Expr.terms, Expr.fragment, Fragment.terms_parens hp]
    exact .group _ _

/-- An operand has the terms of its tree as an operand. -/
theorem Expr.terms_operand {e : Expr} (h : ∀ x ∈ e.callerTexts, x.Closed) :
    (e.operand (e.fragment d)).terms =
      (e.arith.map (Expr.terms d)).asOperand (e.terms d) := by
  cases e with
  | binary left op right => exact Fragment.terms_parens (Expr.closed hd h)
  | _ => rfl

/-- The terms of an expression are those of the tree of its operators. -/
theorem Expr.terms_eq_write {e : Expr} (h : ∀ x ∈ e.callerTexts, x.Closed) :
    e.terms d = (e.arith.map (Expr.terms d)).write := by
  cases e with
  | binary left op right =>
    rw [Expr.callerTexts, List.forall_mem_append] at h
    have hleft := left.closed_operand (Expr.closed hd h.1)
    have hright := right.closed_operand (Expr.closed hd h.2)
    -- with a blank on either side, no word of an operand runs into the sign
    have hsign : Closed ([" ", .word (.verbatim op.sign), " "] : Fragment) :=
      closed_of_check [.text " ", .text op.sign, .text " "] (by cases op <;> rfl)
        (by simp [Chunk.Fit])
    have hbehind : Closed (([" ", .word (.verbatim op.sign), " "] : Fragment) ++
        right.operand (right.fragment d)) :=
      Fragment.closed_behind [" ", op.sign, " "] hright (by cases op <;> rfl)
    calc Expr.terms d (.binary left op right)
      _ = Fragment.terms (left.operand (left.fragment d) ++
          (([" ", .word (.verbatim op.sign), " "] : Fragment) ++
            right.operand (right.fragment d))) := by
        rw [Expr.terms, Expr.fragment]
        simp [Fragment.concat]
      _ = (left.operand (left.fragment d)).terms ++
          (op.mark ++ (right.operand (right.fragment d)).terms) := by
        rw [Fragment.terms_append hleft hbehind rfl,
          Fragment.terms_append_of_apart hsign hright (by cases op <;> rfl), terms_sign]
      _ = ((Expr.binary left op right).arith.map (Expr.terms d)).write := by
        rw [Expr.terms_operand hd h.1, Expr.terms_operand hd h.2, Expr.terms_eq_write h.1,
          Expr.terms_eq_write h.2]
        rfl
  | _ => rfl

end

/-- An operand brings no other texts of the caller than its expression. -/
theorem Expr.callerTexts_subset_of_mem_operands {e x : Expr} (h : x ∈ e.arith.operands) :
    x.callerTexts ⊆ e.callerTexts := by
  cases e with
  | binary left op right =>
    rw [Expr.callerTexts]
    rcases List.mem_append.mp h with h | h
    · exact fun _ ht => List.mem_append_left _ (callerTexts_subset_of_mem_operands h ht)
    · exact fun _ ht => List.mem_append_right _ (callerTexts_subset_of_mem_operands h ht)
  | _ =>
    rw [List.mem_singleton.mp h]
    exact List.Subset.refl _

/-! ## Grouping survives -/

/-- The fragment reads as the tree. -/
def Fragment.ReadsAs (P : Precedence) (f : Fragment) (t : Arith (List Term)) : Prop :=
  ∃ ts top, Term.flattenAll ts = f.lexemes ∧ ReadsArith P top ts t

/-- **Arithmetic reads as it is meant exactly if all SQL of the caller in it are units**, however
tightly which operators bind.  What is read then is the tree of operators, each operand one unit
with the terms that it has alone, and whatever else may be read agrees with it. -/
theorem Expr.reads_as_meant_iff {d : Dialect} (hd : d.Closes)
    (hnow : IsUnit (Fragment.terms ([.word (.verbatim d.currentTimestamp)] : Fragment)))
    {e : Expr} (htexts : ∀ x ∈ e.callerTexts, x.Closed)
    (hoperands : ∀ x ∈ e.arith.operands, x.IsOperand) :
    (∀ x ∈ e.arith.operands, Term.flattenAll (x.terms d) = (x.fragment d).lexemes) ∧
    ∀ P, ((e.fragment d).ReadsAs P (e.arith.map (Expr.terms d)) ↔
        ∀ t, .raw t ∈ e.arith.operands → IsUnit t.fragment.terms) ∧
      ((e.fragment d).ReadsAs P (e.arith.map (Expr.terms d)) →
        ∀ r, (e.fragment d).ReadsAs P r → Arith.Agrees P r (e.arith.map (Expr.terms d))) := by
  have htextsOf {x : Expr} (hx : x ∈ e.arith.operands) : ∀ text ∈ x.callerTexts, text.Closed :=
    fun text htext => htexts text (Expr.callerTexts_subset_of_mem_operands hx htext)
  have hwritten : Term.flattenAll (e.arith.map (Expr.terms d)).write = (e.fragment d).lexemes := by
    rw [← Expr.terms_eq_write hd htexts]
    exact (Expr.closed hd htexts).flattenAll_terms
  -- where the tree is read its operands are units, and two of the three parts rest on this
  have hunits {P : Precedence} (h : (e.fragment d).ReadsAs P (e.arith.map (Expr.terms d))) :
      ∀ ts ∈ (e.arith.map (Expr.terms d)).operands, IsUnit ts := by
    obtain ⟨ts, top, -, hread⟩ := h
    exact hread.isUnit_of_mem_operands
  refine ⟨fun x hx => (Expr.closed hd (htextsOf hx)).flattenAll_terms, fun P => ⟨⟨?_, ?_⟩, ?_⟩⟩
  · intro h t ht
    have hmem := List.mem_map_of_mem (f := Expr.terms d) ht
    rw [← Arith.operands_map] at hmem
    exact hunits h _ hmem
  · intro hraw
    have htree : ∀ ts ∈ (e.arith.map (Expr.terms d)).operands, IsUnit ts := by
      rw [Arith.operands_map, List.forall_mem_map]
      intro x hx
      refine Expr.isUnit_terms hd hnow (htextsOf hx) (hoperands x hx) fun t ht => ?_
      exact hraw t (ht ▸ hx)
    obtain ⟨⟨top, hread⟩, -⟩ := Arith.exists_readsArith P htree
    exact ⟨_, top, hwritten, hread⟩
  · rintro h r ⟨ts, top, hts, hread⟩
    obtain rfl := Term.flattenAll_inj (hts.trans hwritten.symm)
    exact (Arith.agrees_of_readsArith (hunits h)).1 hread

/-- The four dialects write the current time as a unit. -/
theorem DialectKind.isUnit_now (k : DialectKind) :
    IsUnit (Fragment.terms ([.word (.verbatim k.dialect.currentTimestamp)] : Fragment)) := by
  have hunit : IsUnit (Fragment.terms (["CURRENT_TIMESTAMP"] : Fragment)) :=
    .name (.word (w := "CURRENT_TIMESTAMP") (by decide))
  cases k <;> exact hunit

/-- A column of a table of items. -/
def itemColumn (name : String) : Expr := .column ⟨"items", name⟩

/-- What is left of a price, times a rate that the caller writes. -/
def reducedPrice : Expr :=
  .binary (.binary (itemColumn "price") .sub (.coalesce [itemColumn "discount", .literal (.int 0)]))
    .mul (.raw ⟨"rates.net", []⟩)

/-- A sum that the caller writes, times a column. -/
def rawSumTimes : Expr := .binary (.raw ⟨"a + b", []⟩) .mul (itemColumn "quantity")

/-- A name that the caller writes keeps its place. -/
theorem Expr.reads_as_meant_iff_reducedPrice :
    (reducedPrice.fragment .postgres).sql .postgres =
      "(\"items\".\"price\" - COALESCE(\"items\".\"discount\", $1)) * rates.net" ∧
    ∀ P, (reducedPrice.fragment .postgres).ReadsAs P
      (reducedPrice.arith.map (Expr.terms .postgres)) := by
  refine ⟨by decide +kernel, fun P => ?_⟩
  have hoperands : ∀ x ∈ reducedPrice.arith.operands, x.IsOperand := by
    simp [reducedPrice, itemColumn, Expr.arith, Arith.operands, Expr.IsOperand]
  have htexts : ∀ x ∈ reducedPrice.callerTexts, x.Closed := by
    intro x hx
    rw [List.mem_singleton.mp (hx : x ∈ [.template ⟨"rates.net", []⟩])]
    exact ⟨rfl, rfl⟩
  refine ((Expr.reads_as_meant_iff (DialectKind.closes .postgres) (DialectKind.isUnit_now .postgres)
    htexts hoperands).2 P).1.mpr fun t ht => ?_
  have hrate : t = ⟨"rates.net", []⟩ := by
    simpa [reducedPrice, itemColumn, Expr.arith, Arith.operands] using ht
  subst hrate
  exact .name (.dotted (.word (w := "RATES") (by decide)) (.word (w := "NET") (by decide)))

/-- **SQL of the caller is taken apart** by the operators beside it.  Under no rules does this
product read as one, and where products bind more tightly than sums it reads as a sum. -/
theorem Expr.rawSum_taken_apart :
    (rawSumTimes.fragment .postgres).sql .postgres = "a + b * \"items\".\"quantity\"" ∧
    (∀ P, ¬(rawSumTimes.fragment .postgres).ReadsAs P
      (rawSumTimes.arith.map (Expr.terms .postgres))) ∧
    ∀ P : Precedence, P.level .add < P.level .mul → (rawSumTimes.fragment .postgres).ReadsAs P
      (.node (.operand [.atom (.word "A")]) .add (.node (.operand [.atom (.word "B")]) .mul
        (.operand ((itemColumn "quantity").terms .postgres)))) := by
  refine ⟨by decide +kernel, ?_, ?_⟩
  · rintro P ⟨ts, top, -, hread⟩
    have hunit := hread.isUnit_of_mem_operands _ List.mem_cons_self
    have hsign := hunit.signless (.atom (.sign '+')) (List.mem_cons_of_mem _ List.mem_cons_self)
    cases hsign
  · intro P hlevel
    have hword {w : String} (hw : w ≠ "NOT") :
        ReadsArith P none [.atom (.word w)] (.operand [.atom (.word w)]) := .unit (.name (.word hw))
    have hcolumn : ReadsArith P none ((itemColumn "quantity").terms .postgres)
        (.operand ((itemColumn "quantity").terms .postgres)) :=
      .unit (.name (.dotted (.name "items") (.name "quantity")))
    have hproduct := @ReadsArith.node P .mul _ _ _ _ _ _ (hword (w := "B") (by decide)) hcolumn
      nofun nofun
    have hright : P.RightOf (some .mul) .add := by
      intro o ho
      cases ho
      exact .inl hlevel
    exact ⟨_, some .add, rfl, .node (hword (w := "A") (by decide)) hproduct nofun hright⟩

end BoundSql
