import BoundSql.Dialect.Kind
import BoundSql.Proofs.Build
import BoundSql.Proofs.LegibleQuery

/-!
# Placeholders and parameters of finished statements agree

Main statement: `agrees_of_build`.  If one of the four dialects builds a statement or a
batch, then a reader of each finished text counts as many placeholders as there are parameters,
and meets them in order: `$1`, `$2` and so on in PostgreSQL, a question mark each elsewhere.
Names may be anything.  Only what the caller wrote as SQL has to be neat.

What is left to show here is that the four dialects are legible: what they write into a statement
themselves is made of calm words.
-/

namespace BoundSql

open Prepared (Closed isCalmText closed_cons)

/-! ## Phrases of calm words -/

/-- Calm phrases with commas between them are calm. -/
theorem Phrase.all_isCalm_comma {ps : List Phrase} (h : ∀ p ∈ ps, p.all Word.isCalm) :
    (Phrase.comma ps).all Word.isCalm := by
  induction ps with
  | nil => rfl
  | cons p ps ih =>
    rw [List.forall_mem_cons] at h
    cases ps with
    | nil => simpa [Phrase.comma] using h.1
    | cons p' ps =>
      have hcomma : List.all [(", " : Word)] Word.isCalm := by decide
      have hrest := ih h.2
      rw [Phrase.comma] at hrest ⊢
      rw [List.intercalate_cons_cons, List.all_append, List.all_append, h.1, hcomma, hrest]
      rfl

/-- A list with commas is calm if each entry is. -/
theorem Phrase.all_isCalm_list {entry : String → Phrase} (h : ∀ c, (entry c).all Word.isCalm)
    (columns : List String) : (Phrase.comma (columns.map entry)).all Word.isCalm := by
  refine Phrase.all_isCalm_comma fun p hp => ?_
  obtain ⟨c, _, rfl⟩ := List.mem_map.mp hp
  exact h c

/-- Names are calm, whatever they are. -/
theorem Phrase.all_isCalm_names (names : List String) : (Phrase.names names).all Word.isCalm :=
  Phrase.all_isCalm_list (fun _ => rfl) names

/-- An upsert clause of standard SQL is calm. -/
theorem Standard.all_isCalm_upsertClause (target columns : List String) (action : UpsertAction) :
    (Standard.upsertClause target columns action).all Word.isCalm := by
  have hon : Word.isCalm (.verbatim "ON CONFLICT") := by decide
  have hopen : Word.isCalm (.verbatim " (") := by decide
  have hclose : Word.isCalm (.verbatim ")") := by decide
  unfold Standard.upsertClause
  rw [List.all_cons, hon, Bool.true_and, List.all_append, Bool.and_eq_true]
  constructor
  · split
    · rfl
    · simp only [Phrase.concat, List.flatten_cons, List.flatten_nil, List.all_append, List.all_cons,
        List.all_nil, hopen, hclose, Phrase.all_isCalm_names, Bool.and_true]
  · cases action with
    | keep => rfl
    | overwrite updated =>
      have hset : Word.isCalm (.verbatim " DO UPDATE SET ") := by decide
      rw [List.all_cons, hset]
      exact Phrase.all_isCalm_list (fun _ => rfl) updated

/-- So is the one of MySQL. -/
theorem Dialect.all_isCalm_mysqlUpsert (target columns : List String) (action : UpsertAction) :
    (Dialect.mysqlUpsert target columns action).all Word.isCalm := by
  have hupdate : Word.isCalm (.verbatim "ON DUPLICATE KEY UPDATE ") := by decide
  unfold Dialect.mysqlUpsert
  rw [List.all_cons, hupdate]
  cases action with
  | keep => exact Phrase.all_isCalm_list (fun _ => rfl) ((target ++ columns).take 1)
  | overwrite updated => exact Phrase.all_isCalm_list (fun _ => rfl) updated

/-- The clause that cuts out a page is words and numbers, which are calm. -/
theorem Standard.isCalmText_limitOffset {unlimited clause : String} (hu : isCalmText unlimited)
    {limit offset : Option UInt64}
    (h : Standard.limitOffset unlimited limit offset = some clause) : isCalmText clause := by
  have hwords : isCalmText "LIMIT " ∧ isCalmText "OFFSET " ∧ isCalmText " OFFSET " := by decide
  cases limit <;> cases offset <;>
    simp only [Standard.limitOffset, Option.some.injEq, reduceCtorEq] at h <;> subst h <;>
    simp only [Prepared.isCalmText_append, Prepared.isCalmText_toString, hu, hwords, Bool.and_self]

/-! ## The four dialects -/

/-- How a dialect spells the placeholder with a number. -/
def DialectKind.marker : DialectKind → Nat → String
  | .postgres, n => "$" ++ toString n
  | .generic, _ | .sqlite, _ | .mysql, _ => "?"

/-- The dialects have the placeholders that their markers say. -/
theorem DialectKind.placeholder_dialect (k : DialectKind) : k.dialect.placeholder = k.marker := by
  cases k <;> rfl

/-- A marker begins with no digit, so it goes with no number in front of it. -/
theorem DialectKind.closed_marker (k : DialectKind) (n : Nat) (rest : List Char) :
    Closed ((k.marker n).toList ++ rest) := by
  have hquestion : Closed ("?".toList ++ rest) := closed_cons.mpr (by decide)
  have hnumbered : Closed (("$" ++ toString n).toList ++ rest) := by
    rw [Prepared.toList_numbered, List.cons_append]
    exact closed_cons.mpr (by decide)
  cases k with
  | generic => exact hquestion
  | postgres => exact hnumbered
  | sqlite => exact hquestion
  | mysql => exact hquestion

/-- A reader meets a marker as one placeholder, spelled as it is. -/
theorem DialectKind.markersFrom_marker (k : DialectKind) (n : Nat) {rest : List Char}
    (hr : Closed rest) :
    Prepared.markersFrom .plain ((k.marker n).toList ++ rest) =
      k.marker n :: Prepared.markersFrom .plain rest := by
  cases k with
  | generic => exact Prepared.markersFrom_question rest
  | postgres => exact Prepared.markersFrom_numbered n hr
  | sqlite => exact Prepared.markersFrom_question rest
  | mysql => exact Prepared.markersFrom_question rest

/-- In a quoted name no placeholder is met. -/
theorem DialectKind.quiet_quote (k : DialectKind) (name : String) :
    Quiet (k.dialect.quote name) := by
  intro rest
  cases k with
  | generic => exact Prepared.markersFrom_enclose '\x22' name rest rfl
  | postgres => exact Prepared.markersFrom_enclose '\x22' name rest rfl
  | sqlite => exact Prepared.markersFrom_enclose '\x22' name rest rfl
  | mysql => exact Prepared.markersFrom_enclose '\x60' name rest rfl

/-- Each of the four dialects cuts out a page in calm words. -/
theorem DialectKind.isCalmText_limitOffset (k : DialectKind) {limit offset : Option UInt64}
    {clause : String} (h : k.dialect.limitOffset limit offset = some clause) :
    isCalmText clause := by
  cases k with
  | generic => exact Standard.isCalmText_limitOffset (by decide) h
  | postgres => exact Standard.isCalmText_limitOffset (by decide) h
  | sqlite => exact Standard.isCalmText_limitOffset (by decide) h
  | mysql => exact Standard.isCalmText_limitOffset (by decide) h

/-- Each of them has calm upsert clauses. -/
theorem DialectKind.all_isCalm_upsertClause (k : DialectKind) (target columns : List String)
    (action : UpsertAction) : (k.dialect.upsertClause target columns action).all Word.isCalm := by
  cases k with
  | generic => exact Standard.all_isCalm_upsertClause target columns action
  | postgres => exact Standard.all_isCalm_upsertClause target columns action
  | sqlite => exact Standard.all_isCalm_upsertClause target columns action
  | mysql => exact Dialect.all_isCalm_mysqlUpsert target columns action

/-- The four dialects are legible. -/
theorem DialectKind.legible (k : DialectKind) : k.dialect.Legible where
  quote := k.quiet_quote
  placeholder_closed n rest := by
    rw [placeholder_dialect]
    exact k.closed_marker n rest
  placeholder_met n _ hr := by
    rw [placeholder_dialect]
    exact k.markersFrom_marker n hr
  now := by cases k <;> decide
  limitOffset := k.isCalmText_limitOffset
  upsert := k.all_isCalm_upsertClause

/-! ## Finished SQL -/

/-- There are as many placeholders as parameters, and a reader meets them in order, spelled by
`marker`. -/
def Prepared.Agrees (marker : Nat → String) (p : Prepared) : Prop :=
  p.placeholderCount = p.params.length ∧
    p.markers = (List.range p.params.length).map fun i => marker (i + 1)

/-- A legible fragment is finished with placeholders that agree with its parameters. -/
theorem Fragment.Legible.agrees_prepare {d : Dialect} {f : Fragment} (h : Legible d f) :
    (f.prepare d).Agrees d.placeholder := by
  have hsql := Fragment.sql_prepare d f
  have hparams := Fragment.params_prepare d f
  have hmarkers : (f.prepare d).markers = (List.range' 1 f.values.length).map d.placeholder := by
    have := h 0 Prepared.closed_nil
    rw [List.append_nil, ← hsql] at this
    rw [Prepared.markers, this, Nat.zero_add]
    exact List.append_nil _
  constructor
  · rw [← Prepared.length_markers, hmarkers, hparams, List.length_map, List.length_range']
  · rw [hmarkers, hparams, List.range_eq_range', List.range'_eq_map_range, List.map_map,
      ← List.range_eq_range']
    refine List.map_congr_left fun i _ => ?_
    rw [Function.comp_apply, Nat.add_comm]

/-- The statements of a built batch are legible if the rows are. -/
theorem Batch.agrees_of_mem_buildSpans {b : Batch} {d : Dialect} (hd : d.Legible)
    {strategy : BatchStrategy} {limit : Option Nat} {spans : List (Span × Prepared)}
    (h : b.buildSpans d strategy limit = .ok spans) (hneat : AllNeat b.callerTexts)
    {s : Span × Prepared} (hs : s ∈ spans) : s.2.Agrees d.placeholder := by
  rw [Batch.callerTexts_eq, AllNeat, List.forall_mem_flatMap] at hneat
  have hnodes := fun n hn => Node.spaced_of_allNeat hd (hneat n hn)
  obtain ⟨f, hf, heq⟩ := Batch.exists_of_mem_buildSpans h hs
  have hspaced :=
    Batch.spaced_of_mem_fragments hd.speaks hnodes (clausesAdmitted_of_legible hd _ _) hf
  rw [← heq]
  exact (hspaced.legible hd).agrees_prepare

/-- **Finished SQL and its parameters agree.**  Whatever one of the four dialects builds, a reader
counts as many placeholders as there are parameters and meets them in order, provided that the
texts of the caller are neat. -/
theorem agrees_of_build (k : DialectKind) :
    (∀ (s : Statement) (p : Prepared), s.build k.dialect = .ok p → AllNeat s.callerTexts →
      p.Agrees k.marker) ∧
    ∀ (b : Batch) (strategy : BatchStrategy) (limit : Option Nat) (ps : List Prepared),
      b.buildWith k.dialect strategy limit = .ok ps → AllNeat b.callerTexts →
      ∀ p ∈ ps, p.Agrees k.marker := by
  rw [← k.placeholder_dialect]
  constructor
  · intro s p hbuild hneat
    obtain ⟨-, rfl⟩ := Statement.build_eq_ok_iff.mp hbuild
    exact (Statement.legible k.legible s hneat).agrees_prepare
  · intro b strategy limit ps hbuild hneat p hp
    obtain ⟨spans, hspans, rfl⟩ := Batch.buildWith_eq_ok_iff.mp hbuild
    obtain ⟨s, hs, rfl⟩ := List.mem_map.mp hp
    exact Batch.agrees_of_mem_buildSpans k.legible hspans hneat hs

/-- A query whose table is called `a"$1?` and in which the caller writes a condition with a quoted
question mark and a live one. -/
def trickyQuery : Select where
  projection := [.call "lower" [.literal (.text "?")] false]
  source := some (.table { name := "a\x22$1?" })
  condition := some (.conj [.raw ⟨"x = '?$2' OR y = ?", [.int 7]⟩, .always])

/-- A batch of two rows with expressions in them, the second row in another order. -/
def trickyBatch : Batch where
  table := { name := "t`?" }
  rows := [⟨[(⟨"t", "n"⟩, .raw ⟨"? + 1", [.int 1]⟩), (⟨"t", "$9"⟩, .literal .null)], by decide⟩,
    ⟨[(⟨"t", "$9"⟩, .literal (.int 3)), (⟨"t", "n"⟩, .now)], by decide⟩]

/-- The tricky query and the tricky batch are built, and agree with their parameters. -/
theorem agrees_of_build_tricky :
    (∃ p, (Statement.select trickyQuery).build DialectKind.postgres.dialect = .ok p ∧
      p.Agrees DialectKind.postgres.marker) ∧
    ∃ ps, trickyBatch.buildWith DialectKind.mysql.dialect .multiRow (some 2) = .ok ps ∧
      ∀ p ∈ ps, p.Agrees DialectKind.mysql.marker := by
  have hlower : isCalmText "lower" := by decide
  have hquery : AllNeat (Statement.select trickyQuery).callerTexts := by
    show AllNeat [.function "lower", .template ⟨"x = '?$2' OR y = ?", [.int 7]⟩]
    rw [allNeat_cons, allNeat_cons]
    exact ⟨hlower, ⟨by decide, by decide, by decide⟩, List.forall_mem_nil _⟩
  have hbatch : AllNeat trickyBatch.callerTexts := by
    show AllNeat [.template ⟨"? + 1", [.int 1]⟩]
    rw [allNeat_cons]
    exact ⟨⟨by decide, by decide, by decide⟩, List.forall_mem_nil _⟩
  exact ⟨⟨_, rfl, (agrees_of_build .postgres).1 (.select trickyQuery) _ rfl hquery⟩,
    ⟨_, rfl, (agrees_of_build .mysql).2 trickyBatch .multiRow (some 2) _ rfl hbatch⟩⟩

end BoundSql
