import BoundSql.Proofs.Blanks
import BoundSql.Proofs.Fitness
import BoundSql.Proofs.PlaceholderOrder

/-!
# What a dialect lacks is never written

A feature that a dialect lacks is either refused by a check or replaced when the statement is
written.  Main statement: `lacking_unwritten`.  Whatever features one of the four dialects is given
or denied, no statement that it builds has a phrase of a feature that it lacks outside quoted names,
however deep.

Two halves meet here.  A built statement is fit (`builds_iff_fit` and its lemmas), so no query in it
locks rows, and no clause stands at its end, where that cannot be.  And a spaced fragment asks for a
feature only if one of its texts does (`Fragment.Spaced.onlyAsks`), because no word runs across a
seam.
-/

namespace BoundSql

open Fragment (Spaced Trailing textFrom spaced_text trailing_nil trailing_word)

/-! ## Features of dialects -/

namespace Dialect

/-- The dialect with these features and no others. -/
def withCapabilities (d : Dialect) (has : Capability → Bool) (upsertNeedsTarget : Bool) :
    Dialect :=
  { d with
    hasForUpdate := has .forUpdate
    hasReturning := has .returning
    hasUpsert := has .upsert
    hasILike := has .iLike
    hasNullsOrdering := has .nullsOrdering
    hasGroupsFrame := has .groupsFrame
    upsertNeedsTarget }

/-- A legible dialect stays legible whatever features it is given: features change none of the words
it spells. -/
theorem Legible.withCapabilities {d : Dialect} (hd : d.Legible) (has : Capability → Bool)
    (needsTarget : Bool) : (d.withCapabilities has needsTarget).Legible where
  quote := hd.quote
  placeholder_closed := hd.placeholder_closed
  placeholder_met := hd.placeholder_met
  now := hd.now
  limitOffset := hd.limitOffset
  upsert := hd.upsert

end Dialect

/-! ## Texts that ask for no other features -/

/-- The text asks for features that are there, and for no others. -/
def OnlyAsks (has : Capability → Bool) (caseless : Bool) (t : String) : Prop :=
  ∀ f : Capability, f.In caseless t.toList → has f

section

variable {has : Capability → Bool} {caseless : Bool} {s t : String}

/-- A text that asks for nothing asks for no feature that is missing. -/
theorem onlyAsks_of_asksNothing (h : asksNothing t) : OnlyAsks has caseless t :=
  fun f hf => absurd hf (not_in_of_asksNothing h f caseless)

/-- A text that asks for one feature, which is there. -/
theorem onlyAsks_of_has {f : Capability} (hf : has f)
    (h : ∀ caseless ∈ [true, false], ∀ f' ∈ Capability.all, f'.In caseless t.toList → f' = f) :
    OnlyAsks has caseless t := by
  intro f' hin
  have hmem : caseless ∈ [true, false] := by cases caseless <;> decide
  rw [h caseless hmem f' f'.mem_all hin]
  exact hf

/-- Two texts ask for what each of them asks for, if no word runs across the seam. -/
theorem onlyAsks_append (hs : OnlyAsks has caseless s) (ht : OnlyAsks has caseless t)
    (hseam : EndsApart s.toList ∨ BeginsApart t.toList) : OnlyAsks has caseless (s ++ t) := by
  intro f hf
  rw [String.toList_append, Capability.in_append_iff hseam] at hf
  exact hf.elim (hs f) (ht f)

/-- A text that begins with no character of a word begins apart, whatever is behind it. -/
theorem beginsApart_append (h : s.toList.head?.any fun c => !isWordChar c) (t : String) :
    BeginsApart (s ++ t).toList := by
  rw [String.toList_append]
  cases hs : s.toList with
  | nil =>
    rw [hs] at h
    cases h
  | cons c cs =>
    rw [hs] at h
    intro c' hc'
    cases hc'
    exact (Bool.not_eq_true' _).mp h

/-- A plain text that ends apart, and another text. -/
theorem onlyAsks_behind (ht : OnlyAsks has caseless t) (hs : isClosing s) :
    OnlyAsks has caseless (s ++ t) :=
  have hplain := isPlainText_of_isClosing hs
  onlyAsks_append (onlyAsks_of_asksNothing (asksNothing_of_isPlainText hplain)) ht
    (.inl (endsApart_of_isClosing hs))

/-- Two texts, and between them a plain one that is set off on both sides. -/
theorem onlyAsks_between {r : String} (hr : OnlyAsks has caseless r)
    (ht : OnlyAsks has caseless t) (hs : isSeparator s) : OnlyAsks has caseless (r ++ (s ++ t)) :=
  onlyAsks_append hr (onlyAsks_behind ht (isClosing_of_isSeparator hs))
    (.inr (beginsApart_append (head?_of_isSeparator hs) t))

/-- A number asks for nothing. -/
theorem onlyAsks_toString (n : Nat) : OnlyAsks has caseless (toString n) :=
  fun _ hf => absurd hf (Capability.not_in_digits (Prepared.all_isDigit_toString n))

/-- The blanks in place of a name ask for nothing. -/
theorem onlyAsks_blanks (cs : List Char) :
    OnlyAsks has caseless (String.ofList (blanksFor cs)) := by
  intro f hf
  rw [String.toList_ofList] at hf
  refine absurd hf (Capability.not_in_of_blank fun c hc => ?_)
  obtain ⟨_, _, rfl⟩ := List.mem_map.mp hc
  rfl

/-- Blanks end apart: what is behind them begins a word of its own. -/
theorem endsApart_blanks (cs : List Char) : EndsApart (String.ofList (blanksFor cs)).toList := by
  intro c hc
  rw [String.toList_ofList] at hc
  obtain ⟨_, _, rfl⟩ := List.mem_map.mp (List.mem_of_getLast? hc)
  rfl

/-- A bound of a frame asks for nothing, a number of rows or not. -/
theorem onlyAsks_frameBound (b : FrameBound) : OnlyAsks has caseless b.text := by
  cases b with
  | unboundedPreceding => exact onlyAsks_of_asksNothing (by decide)
  | preceding n =>
    exact onlyAsks_append (onlyAsks_toString _) (onlyAsks_of_asksNothing (by decide))
      (.inr (by decide))
  | currentRow => exact onlyAsks_of_asksNothing (by decide)
  | following n =>
    exact onlyAsks_append (onlyAsks_toString _) (onlyAsks_of_asksNothing (by decide))
      (.inr (by decide))
  | unboundedFollowing => exact onlyAsks_of_asksNothing (by decide)

/-- The unit in which a frame counts. -/
def Frame.unit (d : Dialect) : FrameKind → String
  | .rows => "ROWS"
  | .range => "RANGE"
  | .groups => if d.hasGroupsFrame then "GROUPS" else "ROWS"

/-- A frame is its unit and its ends. -/
theorem Frame.text_eq (d : Dialect) (frame : Frame) :
    frame.text d = Frame.unit d frame.kind ++
      frame.stop.elim (" " ++ frame.start.text) fun stop =>
        " BETWEEN " ++ (frame.start.text ++ (" AND " ++ stop.text)) := by
  obtain ⟨kind, start, stop⟩ := frame
  cases stop with
  | none => exact String.append_assoc
  | some stop =>
    simp only [Frame.text, String.append_assoc]
    rfl

/-- Groups of peers are counted only where they can be. -/
theorem onlyAsks_unit {d : Dialect} (hgroups : d.hasGroupsFrame → has .groupsFrame)
    (kind : FrameKind) : OnlyAsks has caseless (Frame.unit d kind) := by
  have hrows : OnlyAsks has caseless "ROWS" := onlyAsks_of_asksNothing (by decide)
  have hrange : OnlyAsks has caseless "RANGE" := onlyAsks_of_asksNothing (by decide)
  cases kind with
  | rows => exact hrows
  | range => exact hrange
  | groups =>
    rw [Frame.unit]
    split
    · next h => exact onlyAsks_of_has (hgroups h) (by decide)
    · exact hrows

/-- A frame asks for groups of peers only where they can be counted. -/
theorem onlyAsks_frame {d : Dialect} (hgroups : d.hasGroupsFrame → has .groupsFrame)
    (frame : Frame) : OnlyAsks has caseless (frame.text d) := by
  have hunit : OnlyAsks has caseless (Frame.unit d frame.kind) := onlyAsks_unit hgroups frame.kind
  have hstart : OnlyAsks has caseless frame.start.text := onlyAsks_frameBound frame.start
  rw [Frame.text_eq]
  cases frame.stop with
  | none => exact onlyAsks_between hunit hstart (by decide)
  | some stop =>
    have hends := onlyAsks_between hstart (onlyAsks_frameBound stop) (s := " AND ") (by decide)
    exact onlyAsks_between hunit hends (by decide)

/-- The clause that cuts out a page asks for nothing. -/
theorem Standard.onlyAsks_limitOffset {unlimited clause : String} {limit offset : Option UInt64}
    (h : Standard.limitOffset unlimited limit offset = some clause)
    (hu : isClosing unlimited) : OnlyAsks has caseless clause := by
  have hnumber (n : UInt64) : OnlyAsks has caseless (toString n.toNat) := onlyAsks_toString _
  cases limit with
  | none =>
    cases offset with
    | none => cases h
    | some o =>
      cases h
      rw [String.append_assoc]
      exact onlyAsks_behind (onlyAsks_behind (hnumber o) (by decide)) hu
  | some l =>
    cases offset with
    | none =>
      cases h
      exact onlyAsks_behind (hnumber l) (by decide)
    | some o =>
      cases h
      simp only [String.append_assoc]
      exact onlyAsks_behind (onlyAsks_between (hnumber l) (hnumber o) (by decide)) (by decide)

end

/-! ## Fragments that ask for no other features -/

namespace Fragment

variable {d : Dialect} {f : Fragment} {has : Capability → Bool} {caseless : Bool}

/-- A fragment that begins apart is written so, for no name and no value comes first. -/
theorem beginsApart_textFrom (h : f.opens) (n : Nat) : BeginsApart (textFrom d n f).toList := by
  cases f with
  | nil => exact fun c hc => by cases hc
  | cons p f =>
    cases p with
    | word w =>
      cases w with
      | verbatim t =>
        rw [textFrom_word, Word.write_verbatim]
        exact beginsApart_append h _
      | name identifier => cases h
    | bound v => cases h

/-- Names overwritten, the fragment asks for features that are there and for no others. -/
def OnlyAsks (d : Dialect) (has : Capability → Bool) (caseless : Bool) (f : Fragment) : Prop :=
  ∀ n, BoundSql.OnlyAsks has caseless (textFrom d.blanked n f)

/-- A spaced fragment asks for what its texts ask for. -/
theorem Spaced.onlyAsks (hplaceholder : ∀ n, BoundSql.OnlyAsks has caseless (d.placeholder n))
    (h : Spaced (BoundSql.OnlyAsks has caseless) (OnlyAsks d has caseless) f) :
    OnlyAsks d has caseless f := by
  induction h with
  | nil =>
    intro n
    rw [textFrom_nil]
    exact onlyAsks_of_asksNothing (by decide)
  | bound v =>
    intro n
    rw [textFrom_bound, textFrom_nil, String.append_empty]
    exact hplaceholder (n + 1)
  | taken hf => exact hf
  | name identifier _ _ ih =>
    intro n
    rw [textFrom_word, Word.write_name, Dialect.blanked]
    exact onlyAsks_append (onlyAsks_blanks _) (ih n) (.inl (endsApart_blanks _))
  | text ht hseam _ ih =>
    intro n
    exact onlyAsks_append ht (ih n) (hseam.imp_right fun hopens => beginsApart_textFrom hopens n)
  | append _ _ hopens ihf ihg =>
    intro n
    rw [textFrom_append]
    exact onlyAsks_append (ihf n) (ihg _) (.inr (beginsApart_textFrom hopens _))

end Fragment

/-! ## The four dialects, given and denied features -/

section

variable {d : Dialect} {admits : String → Prop} {whole : Fragment → Prop} (hd : d.Speaks admits)

include hd

/-- The columns that a conflict is about. -/
theorem Standard.trailing_target (target : List String) : Trailing admits whole (.ofPhrase
    (if target.isEmpty then [] else Phrase.concat [[" ("], .names target, [")"]])) := by
  split
  · exact trailing_nil
  · have heq : Fragment.ofPhrase (.concat [[" ("], .names target, [")"]]) =
        (" (" : Piece) :: (Fragment.ofPhrase (.names target) ++ [(")" : Piece)]) := by
      simp [Fragment.ofPhrase, Phrase.concat]
    have hclosed : Spaced admits whole (Fragment.ofPhrase (.names target) ++ [(")" : Piece)]) :=
      (spaced_names hd target).append (spaced_text hd (by decide)) rfl
    rw [heq]
    exact trailing_word hd hclosed (by decide)

/-- In standard SQL an upsert clause asks for nothing but upserts, and keeps its names apart. -/
theorem Standard.spaced_upsertClause (h : admits "ON CONFLICT") (target columns : List String)
    (action : UpsertAction) :
    Spaced admits whole (.ofPhrase (Standard.upsertClause target columns action)) := by
  have hclause (act : Phrase) (hact : Trailing admits whole (.ofPhrase act)) :
      Spaced admits whole (.ofPhrase ("ON CONFLICT" :: ((if target.isEmpty then [] else
        Phrase.concat [[" ("], .names target, [")"]]) ++ act))) := by
    have hrest := (Standard.trailing_target hd target).append hact
    rw [Fragment.ofPhrase, Fragment.ofPhrase, ← List.map_append] at hrest
    exact .text h (.inr hrest.opens) hrest.spaced
  cases action with
  | keep => exact hclause _ ⟨spaced_text hd (t := " DO NOTHING") (by decide), rfl⟩
  | overwrite updated =>
    have hassigned : Spaced admits whole (.ofPhrase (Phrase.comma (updated.map fun c =>
        [.name c, " = EXCLUDED.", .name c]))) :=
      spaced_entries hd updated fun c =>
        .name c rfl ((Spaced.nil.name c rfl).word hd (by decide))
    exact hclause (" DO UPDATE SET " :: _) (trailing_word hd hassigned (by decide))

/-- In MySQL it does so in other words. -/
theorem Dialect.spaced_mysqlUpsert (h : admits "ON DUPLICATE KEY UPDATE ")
    (target columns : List String) (action : UpsertAction) :
    Spaced admits whole (.ofPhrase (Dialect.mysqlUpsert target columns action)) := by
  cases action with
  | keep =>
    exact .text h (.inl (by decide)) (spaced_entries hd ((target ++ columns).take 1) fun c =>
      .name c rfl ((Spaced.nil.name c rfl).word hd (by decide)))
  | overwrite updated =>
    exact .text h (.inl (by decide)) (spaced_entries hd updated fun c =>
      .name c rfl (Spaced.word hd (.name c rfl (spaced_text hd (by decide))) (by decide)))

/-- In each of the four dialects an upsert clause is spaced if its first words are admitted. -/
theorem DialectKind.spaced_upsertClause (k : DialectKind) (hconflict : admits "ON CONFLICT")
    (hduplicate : admits "ON DUPLICATE KEY UPDATE ") (target columns : List String)
    (action : UpsertAction) :
    Spaced admits whole (.ofPhrase (k.dialect.upsertClause target columns action)) := by
  cases k with
  | generic => exact Standard.spaced_upsertClause hd hconflict target columns action
  | postgres => exact Standard.spaced_upsertClause hd hconflict target columns action
  | sqlite => exact Standard.spaced_upsertClause hd hconflict target columns action
  | mysql => exact Dialect.spaced_mysqlUpsert hd hduplicate target columns action

end

namespace DialectKind

variable (k : DialectKind) (has : Capability → Bool) (needsTarget caseless : Bool)

/-- A placeholder asks for nothing. -/
theorem onlyAsks_placeholder (n : Nat) :
    OnlyAsks has caseless ((k.dialect.withCapabilities has needsTarget).placeholder n) := by
  have hquestion : OnlyAsks has caseless "?" := onlyAsks_of_asksNothing (by decide)
  show OnlyAsks has caseless (k.dialect.placeholder n)
  rw [placeholder_dialect]
  cases k with
  | generic => exact hquestion
  | postgres =>
    exact onlyAsks_append (onlyAsks_of_asksNothing (by decide)) (onlyAsks_toString n)
      (.inl (by decide))
  | sqlite => exact hquestion
  | mysql => exact hquestion

/-- Whatever a dialect writes itself asks for no feature that it lacks. -/
theorem speaks_withCapabilities :
    (k.dialect.withCapabilities has needsTarget).Speaks (OnlyAsks has caseless) where
  plain ht := onlyAsks_of_asksNothing (asksNothing_of_isPlainText ht)
  now := by
    have hnow : k.dialect.currentTimestamp = "CURRENT_TIMESTAMP" := by cases k <;> rfl
    show OnlyAsks has caseless k.dialect.currentTimestamp
    rw [hnow]
    exact onlyAsks_of_asksNothing (by decide)
  limitOffset h := by
    cases k with
    | generic => exact Standard.onlyAsks_limitOffset h (by decide)
    | postgres => exact Standard.onlyAsks_limitOffset h (by decide)
    | sqlite => exact Standard.onlyAsks_limitOffset h (by decide)
    | mysql => exact Standard.onlyAsks_limitOffset h (by decide)
  frame := onlyAsks_frame id
  iLike h := onlyAsks_of_has h (by decide)
  nulls place h := by
    cases place with
    | first => exact onlyAsks_of_has h (by decide)
    | last => exact onlyAsks_of_has h (by decide)

/-- There is no quotation mark in what a dialect writes itself. -/
theorem speaks_markless :
    (k.dialect.withCapabilities has needsTarget).Speaks (Quoting.isMarkless ·) :=
  (k.legible.withCapabilities has needsTarget).speaks.mono Quoting.isMarkless_of_isCalmText

/-- There is no quotation mark in a placeholder. -/
theorem isMarkless_placeholder (n : Nat) : Quoting.isMarkless (k.dialect.placeholder n) := by
  have hquestion : Quoting.isMarkless "?" := by decide
  have hnumber : Quoting.isMarkless (toString n) :=
    Quoting.isMarkless_of_isCalmText (Prepared.isCalmText_toString n)
  rw [placeholder_dialect]
  cases k with
  | generic => exact hquestion
  | postgres => exact Quoting.isMarkless_append (by decide) hnumber
  | sqlite => exact hquestion
  | mysql => exact hquestion

/-- A reader overwrites the names that a dialect quotes, and nothing else that it writes. -/
theorem blankable : (k.dialect.withCapabilities has needsTarget).Blankable where
  quote := by
    cases k with
    | generic => exact Quoting.blank_enclose rfl
    | postgres => exact Quoting.blank_enclose rfl
    | sqlite => exact Quoting.blank_enclose rfl
    | mysql => exact Quoting.blank_enclose rfl
  placeholder := k.isMarkless_placeholder

end DialectKind

/-! ## The texts of the caller -/

namespace CallerText

/-- The text is an inlined number, or the name of a function that shares no word with the phrases
by which features are asked for. -/
def Harmless (caseless : Bool) : CallerText → Prop
  | .template t => ∃ n : Nat, t = ⟨toString n, []⟩
  | .function name => ∀ w ∈ wordsOf caseless name.toList, ∀ f : Capability,
      ∀ phrase ∈ f.phrases, w ∉ phrase

/-- If the text is the name of a function, there is no quotation mark in it. -/
def Markless : CallerText → Prop
  | .template _ => True
  | .function name => Quoting.isMarkless name

variable {d : Dialect} {has : Capability → Bool} {caseless : Bool} {x : CallerText}

/-- A raw text that is a number is written as that number. -/
theorem textFrom_number (d : Dialect) (n number : Nat) :
    textFrom d n (Template.fragment ⟨toString number, []⟩) = toString number := by
  rw [Template.fragment, Template.textFrom_pieces_nil, String.ofList_toList]

/-- A harmless text asks for nothing, wherever it may stand. -/
theorem Harmless.admitted (h : x.Harmless caseless) :
    x.Admitted (OnlyAsks has caseless) (Fragment.OnlyAsks d has caseless) := by
  cases x with
  | template t =>
    obtain ⟨number, rfl⟩ := h
    intro n
    rw [textFrom_number]
    exact onlyAsks_toString number
  | function name =>
    rintro f ⟨w, hw, hmark⟩
    obtain ⟨phrase, hphrase, hmem⟩ := f.marks_of_phrases.2 w hmark
    exact absurd hmem (h w hw f phrase hphrase)

/-- A harmless text without marks has nothing in it that is overwritten. -/
theorem Harmless.blanks_admitted (h : x.Harmless caseless) (hx : x.Markless) :
    x.Admitted (Quoting.isMarkless ·) (Fragment.Blanks d) := by
  cases x with
  | template t =>
    obtain ⟨number, rfl⟩ := h
    intro n rest
    have hnumber := Quoting.isMarkless_of_isCalmText (Prepared.isCalmText_toString number)
    rw [textFrom_number, textFrom_number]
    exact Quoting.blank_markless hnumber rest
  | function name => exact hx

end CallerText

/-! ## Built statements -/

/-- The text has no phrase of a feature that is missing. -/
def Prepared.Spares (has : Capability → Bool) (caseless : Bool) (p : Prepared) : Prop :=
  ∀ f : Capability, has f = false → ∀ phrase ∈ f.phrases,
    ¬phrase <:+: wordsOf caseless p.sql.toList

/-- A fragment that asks for no feature that is missing is written without it. -/
theorem Fragment.OnlyAsks.spares {d : Dialect} {has : Capability → Bool} {caseless : Bool}
    {f : Fragment} (h : OnlyAsks d has caseless f) :
    (f.prepare d.blanked).Spares has caseless := by
  intro c hlacks phrase hphrase
  refine Capability.not_infix_of_not_in (fun hin => ?_) hphrase
  rw [sql_prepare] at hin
  have hhas := h 0 c hin
  rw [hlacks] at hhas
  cases hhas

/-- Nothing in a statement demands a feature that the dialect lacks. -/
structure Supported (d : Dialect) (nodes : List Node) (conflict : Option Conflict)
    (returning : List ColumnRef) : Prop where
  locks : ∀ n ∈ nodes, ∀ q, n.Holds (.select q) → q.forUpdate → d.hasForUpdate
  upsert : conflict ≠ none → d.hasUpsert
  returning : returning ≠ [] → d.hasReturning

/-- A dialect that a conflict is fit for has upserts. -/
theorem Conflict.hasUpsert_of_fit {d : Dialect} {conflict : Option Conflict}
    {inserted : List String} (h : ∀ c ∈ conflict, c.Fit d inserted) (hc : conflict ≠ none) :
    d.hasUpsert := by
  obtain ⟨c, rfl⟩ := Option.ne_none_iff_exists'.mp hc
  exact (h c rfl).supported

/-- A checked statement demands nothing that the dialect lacks. -/
theorem Statement.supported_of_check {d : Dialect} {s : Statement} (h : s.check d = .ok ()) :
    Supported d s.nodes s.conflict s.returning := by
  obtain ⟨hqueries, hfit⟩ := Statement.check_eq_ok_iff_fit.mp h
  refine ⟨fun n hn q hq => (hqueries n hn q hq).locks, ?_, ?_⟩
  · cases s with
    | insert i => exact Conflict.hasUpsert_of_fit hfit.conflict
    | _ => exact fun hc => absurd rfl hc
  · cases s with
    | select q => exact fun hr => absurd rfl hr
    | insert i => exact hfit.returning
    | update u => exact hfit.returning
    | delete x => exact hfit

/-- Nor does a checked batch: each of its rows has been looked at. -/
theorem Batch.supported_of_check {d : Dialect} {b : Batch} (hrows : b.rows ≠ [])
    (h : b.check d = .ok ()) : Supported d b.nodes b.conflict b.returning := by
  obtain ⟨hqueries, hfit⟩ := (Batch.check_eq_ok_iff_fit hrows).mp h
  obtain ⟨row, hrow⟩ := List.exists_mem_of_ne_nil b.rows hrows
  exact ⟨fun n hn q hq => (hqueries n hn q hq).locks,
    Conflict.hasUpsert_of_fit (hfit.conflict row hrow), hfit.returning⟩

section

variable {k : DialectKind} {has : Capability → Bool} {needsTarget caseless : Bool}
  {nodes : List Node} {conflict : Option Conflict} {returning : List ColumnRef}

/-- Where nothing missing is demanded, every node asks only for what is there. -/
theorem Supported.spaced
    (h : Supported (k.dialect.withCapabilities has needsTarget) nodes conflict returning)
    (htexts : ∀ x ∈ nodes.flatMap Node.callerTexts, x.Harmless caseless) :
    ∀ n ∈ nodes, Spaced (OnlyAsks has caseless)
      (Fragment.OnlyAsks (k.dialect.withCapabilities has needsTarget) has caseless)
      (n.fragment (k.dialect.withCapabilities has needsTarget)) := by
  rw [List.forall_mem_flatMap] at htexts
  intro n hn
  refine Node.spaced_of_callerTexts (k.speaks_withCapabilities has needsTarget caseless)
    (fun x hx => (htexts n hn x hx).admitted) fun q hq hlock => ?_
  exact onlyAsks_of_has (h.locks n hn q hq hlock) (by decide)

/-- Nor is anything missing asked for by the clauses behind the rows. -/
theorem Supported.clausesAdmitted
    (h : Supported (k.dialect.withCapabilities has needsTarget) nodes conflict returning) :
    ClausesAdmitted (k.dialect.withCapabilities has needsTarget) (OnlyAsks has caseless)
      (Fragment.OnlyAsks (k.dialect.withCapabilities has needsTarget) has caseless) conflict
      returning where
  upsert hc target columns action := by
    have hupsert : has .upsert := h.upsert hc
    exact DialectKind.spaced_upsertClause (k.speaks_withCapabilities has needsTarget caseless) k
      (onlyAsks_of_has hupsert (by decide)) (onlyAsks_of_has hupsert (by decide)) target columns
      action
  returning hr := onlyAsks_of_has (h.returning hr) (by decide)

/-- Without quotation marks in the texts of the caller, names are all that is quoted. -/
theorem spaced_blanks (k : DialectKind) (has : Capability → Bool) (needsTarget : Bool)
    (htexts : ∀ x ∈ nodes.flatMap Node.callerTexts, x.Harmless caseless ∧ x.Markless) :
    ∀ n ∈ nodes, Spaced (Quoting.isMarkless ·)
      (Fragment.Blanks (k.dialect.withCapabilities has needsTarget))
      (n.fragment (k.dialect.withCapabilities has needsTarget)) := by
  rw [List.forall_mem_flatMap] at htexts
  intro n hn
  refine Node.spaced_of_callerTexts (k.speaks_markless has needsTarget) (fun x hx => ?_)
    fun _ _ _ => by decide
  obtain ⟨hharmless, hmarkless⟩ := htexts n hn x hx
  exact hharmless.blanks_admitted hmarkless

/-- In these clauses too, names are all that is quoted. -/
theorem clausesAdmitted_blanks (k : DialectKind) (has : Capability → Bool) (needsTarget : Bool)
    (conflict : Option Conflict) (returning : List ColumnRef) :
    ClausesAdmitted (k.dialect.withCapabilities has needsTarget) (Quoting.isMarkless ·)
      (Fragment.Blanks (k.dialect.withCapabilities has needsTarget)) conflict returning where
  upsert _ := DialectKind.spaced_upsertClause (k.speaks_markless has needsTarget) k (by decide)
    (by decide)
  returning _ := by decide

/-! ### Statements -/

variable {s : Statement}

/-- A checked statement asks for no feature that is missing. -/
theorem Statement.onlyAsks_of_check
    (hcheck : s.check (k.dialect.withCapabilities has needsTarget) = .ok ())
    (htexts : ∀ x ∈ s.callerTexts, x.Harmless caseless) :
    (s.fragment (k.dialect.withCapabilities has needsTarget)).OnlyAsks
      (k.dialect.withCapabilities has needsTarget) has caseless := by
  have hsupported := Statement.supported_of_check hcheck
  rw [Statement.callerTexts_eq] at htexts
  have hspaced := s.spaced (k.speaks_withCapabilities has needsTarget caseless)
    (hsupported.spaced htexts) hsupported.clausesAdmitted
  exact hspaced.onlyAsks (k.onlyAsks_placeholder has needsTarget caseless)

/-- A reader overwrites the names in a statement and nothing else. -/
theorem Statement.blanks (htexts : ∀ x ∈ s.callerTexts, x.Harmless caseless ∧ x.Markless) :
    (s.fragment (k.dialect.withCapabilities has needsTarget)).Blanks
      (k.dialect.withCapabilities has needsTarget) := by
  rw [Statement.callerTexts_eq] at htexts
  have hspaced := s.spaced (k.speaks_markless has needsTarget)
    (spaced_blanks k has needsTarget htexts) (clausesAdmitted_blanks k has needsTarget _ _)
  exact hspaced.blanks (k.blankable has needsTarget)

/-! ### Batches -/

variable {b : Batch} {strategy : BatchStrategy} {limit : Option Nat} {f : Fragment}

/-- The fragments of a checked batch ask for no feature that is missing. -/
theorem Batch.onlyAsks_of_mem_fragments
    (hcheck : b.check (k.dialect.withCapabilities has needsTarget) = .ok ())
    (htexts : ∀ x ∈ b.callerTexts, x.Harmless caseless)
    (hf : f ∈ b.fragments (k.dialect.withCapabilities has needsTarget) strategy limit) :
    f.OnlyAsks (k.dialect.withCapabilities has needsTarget) has caseless := by
  by_cases hrows : b.rows = []
  · rw [Batch.fragments, hrows] at hf
    cases hf
  · have hsupported := Batch.supported_of_check hrows hcheck
    rw [Batch.callerTexts_eq] at htexts
    have hspaced := Batch.spaced_of_mem_fragments
      (k.speaks_withCapabilities has needsTarget caseless) (hsupported.spaced htexts)
      hsupported.clausesAdmitted hf
    exact hspaced.onlyAsks (k.onlyAsks_placeholder has needsTarget caseless)

/-- A reader overwrites the names in the fragments of a batch and nothing else. -/
theorem Batch.blanks_of_mem_fragments
    (htexts : ∀ x ∈ b.callerTexts, x.Harmless caseless ∧ x.Markless)
    (hf : f ∈ b.fragments (k.dialect.withCapabilities has needsTarget) strategy limit) :
    f.Blanks (k.dialect.withCapabilities has needsTarget) := by
  rw [Batch.callerTexts_eq] at htexts
  have hspaced := Batch.spaced_of_mem_fragments (k.speaks_markless has needsTarget)
    (spaced_blanks k has needsTarget htexts) (clausesAdmitted_blanks k has needsTarget _ _) hf
  exact hspaced.blanks (k.blankable has needsTarget)

end

/-- **What a dialect lacks is never written.**  Give or deny one of the four dialects whatever
features you like.  Whenever it then builds a statement or a batch, the same is built with every
quoted name overwritten with blanks, and no phrase of a missing feature stands in that text; with
or without regard to the case of letters.  The caller may have written inlined numbers and names of
functions that share no word with these phrases.  If there is no quotation mark in those names, a
reader of the finished text gets the overwritten one by overwriting every quoted run. -/
theorem lacking_unwritten (k : DialectKind) (has : Capability → Bool)
    (needsTarget caseless : Bool) :
    let d := k.dialect.withCapabilities has needsTarget
    (∀ (s : Statement) (p : Prepared), s.build d = .ok p →
      (∀ x ∈ s.callerTexts, x.Harmless caseless) →
      ∃ bare, s.build d.blanked = .ok bare ∧ bare.params = p.params ∧
        bare.Spares has caseless ∧
        ((∀ x ∈ s.callerTexts, x.Markless) → bare.sql = p.blanked)) ∧
    ∀ (b : Batch) (strategy : BatchStrategy) (limit : Option Nat) (ps : List Prepared),
      b.buildWith d strategy limit = .ok ps →
      (∀ x ∈ b.callerTexts, x.Harmless caseless) →
      ∃ bares, b.buildWith d.blanked strategy limit = .ok bares ∧
        bares.map Prepared.params = ps.map Prepared.params ∧
        (∀ bare ∈ bares, bare.Spares has caseless) ∧
        ((∀ x ∈ b.callerTexts, x.Markless) →
          bares.map Prepared.sql = ps.map Prepared.blanked) := by
  intro d
  constructor
  · intro s p hbuild htexts
    obtain ⟨hcheck, rfl⟩ := Statement.build_eq_ok_iff.mp hbuild
    -- only quoting is different in the blanked dialect, so the check and the fragment are the same
    refine ⟨(s.fragment d).prepare d.blanked, ?_, ?_,
      (Statement.onlyAsks_of_check hcheck htexts).spares, fun hmarkless => ?_⟩
    · rw [Statement.build_eq_ok_iff, Statement.check_blanked, Statement.fragment_blanked]
      exact ⟨hcheck, rfl⟩
    · rw [Fragment.params_prepare, Fragment.params_prepare]
    · have hblanks : (s.fragment d).Blanks d :=
        Statement.blanks fun x hx => ⟨htexts x hx, hmarkless x hx⟩
      exact hblanks.sql_prepare_blanked
  · intro b strategy limit ps hbuild htexts
    obtain ⟨hcheck, rfl⟩ := Batch.buildWith_eq_ok_iff_fragments.mp hbuild
    refine ⟨(b.fragments d strategy limit).map (Fragment.prepare d.blanked), ?_, ?_, ?_,
      fun hmarkless => ?_⟩
    · rw [Batch.buildWith_eq_ok_iff_fragments, Batch.check_blanked, Batch.fragments_blanked]
      exact ⟨hcheck, rfl⟩
    · rw [List.map_map, List.map_map]
      refine List.map_congr_left fun f _ => ?_
      rw [Function.comp_apply, Function.comp_apply, Fragment.params_prepare,
        Fragment.params_prepare]
    · intro bare hbare
      obtain ⟨f, hf, rfl⟩ := List.mem_map.mp hbare
      exact (Batch.onlyAsks_of_mem_fragments hcheck htexts hf).spares
    · rw [List.map_map, List.map_map]
      refine List.map_congr_left fun f hf => ?_
      have hblanks : f.Blanks d :=
        Batch.blanks_of_mem_fragments (fun x hx => ⟨htexts x hx, hmarkless x hx⟩) hf
      exact hblanks.sql_prepare_blanked

/-- A query that would like to order NULLs, to count groups of peers and to ignore the case of
letters, from a table that is called `FOR UPDATE`. -/
def wishfulQuery : Select where
  projection := [.window (.call "rank" [] false) {
    order := [⟨.column ⟨"t", "n"⟩, .asc, some .first⟩]
    frame := some ⟨.groups, .preceding 3, none⟩ }]
  source := some (.table { name := "FOR UPDATE" })
  condition := some (.like (.raw ⟨toString 1, []⟩) .now false true)

/-- A row of one column called `RETURNING`. -/
def wishfulBatch : Batch where
  table := { name := "t" }
  rows := [⟨[(⟨"t", "RETURNING"⟩, .call "lower" [.literal .null] false)], by decide⟩]
  conflict := some ⟨[⟨"t", "RETURNING"⟩], .overwrite [⟨"t", "n"⟩]⟩

/-- On a SQLite with upserts alone, the wishful query and the batch are written without any other
feature. -/
theorem lacking_unwritten_wishful :
    let d := DialectKind.sqlite.dialect.withCapabilities (· == .upsert) true
    (∃ p bare, (Statement.select wishfulQuery).build d = .ok p ∧
      (Statement.select wishfulQuery).build d.blanked = .ok bare ∧
      bare.Spares (· == .upsert) true ∧ bare.sql = p.blanked) ∧
    ∃ ps bares, wishfulBatch.buildWith d .multiRow none = .ok ps ∧
      wishfulBatch.buildWith d.blanked .multiRow none = .ok bares ∧
      (∀ bare ∈ bares, bare.Spares (· == .upsert) true) ∧
      bares.map Prepared.sql = ps.map Prepared.blanked := by
  intro d
  have hname (name : String) (h : (wordsOf true name.toList).all fun w =>
      Capability.all.all fun f => f.phrases.all fun phrase => !phrase.contains w) :
      (CallerText.function name).Harmless true := by
    simp only [List.all_eq_true, Bool.not_eq_true', List.contains_eq_mem,
      decide_eq_false_iff_not] at h
    exact fun w hw f phrase hphrase => h w hw f f.mem_all phrase hphrase
  have hquery : ∀ x ∈ (Statement.select wishfulQuery).callerTexts,
      x.Harmless true ∧ x.Markless := by
    have hmarkless : Quoting.isMarkless "rank" := by decide
    show ∀ x ∈ [CallerText.function "rank", .template ⟨toString 1, []⟩], _
    rw [List.forall_mem_cons, List.forall_mem_singleton]
    exact ⟨⟨hname "rank" (by decide), hmarkless⟩, ⟨1, rfl⟩, trivial⟩
  have hbatch : ∀ x ∈ wishfulBatch.callerTexts, x.Harmless true ∧ x.Markless := by
    have hmarkless : Quoting.isMarkless "lower" := by decide
    show ∀ x ∈ [CallerText.function "lower"], _
    rw [List.forall_mem_singleton]
    exact ⟨hname "lower" (by decide), hmarkless⟩
  obtain ⟨bare, hbare, -, hspares, hblanked⟩ :=
    (lacking_unwritten .sqlite (· == .upsert) true true).1 (.select wishfulQuery) _ rfl
      fun x hx => (hquery x hx).1
  obtain ⟨bares, hbares, -, hspare, hblank⟩ :=
    (lacking_unwritten .sqlite (· == .upsert) true true).2 wishfulBatch .multiRow none _ rfl
      fun x hx => (hbatch x hx).1
  exact ⟨⟨_, bare, rfl, hbare, hspares, hblanked fun x hx => (hquery x hx).2⟩,
    _, bares, rfl, hbares, hspare, hblank fun x hx => (hbatch x hx).2⟩

end BoundSql
