import BoundSql.Compiler.Execution
import BoundSql.Proofs.MultiRow

/-!
# What an executor is sent

An executor answers the last of the statements that it has received so far, and it may answer by
everything it has received.  Nothing is assumed of it.  Statements are sent to it in order, and
after the first one that it does not run nothing more is sent.

What one statement does is said twice: it fails and ends the run, or it is answered and the run
goes on with one statement more behind it (`sendAll_cons_error`, `sendAll_cons_ok`).  By induction
on the statements to come, a run that is going to fail at statement number `k` sends the
statements up to that one (`sendAll_of_failsFirst`), and a run that is not going to fail sends all
of them and collects the answers (`sendAll_of_runsAll`).

Main statement: `Compiler.executeBatch_faithful`.
-/

namespace BoundSql

/-! ## Executors -/

namespace Executor

/-- The answer to statement number `k` of `ps`, when `sent` were sent before. -/
def answer (x : Executor) (sent ps : List Prepared) (k : Nat) : Except QueryError UInt64 :=
  x (sent ++ ps.take (k + 1))

/-- All of `ps` are run when they are sent one behind another, `sent` having been sent before. -/
def RunsAll (x : Executor) (sent ps : List Prepared) : Prop :=
  ∀ k < ps.length, ∃ n, x.answer sent ps k = .ok n

/-- Statement number `k` of `ps` is the first one that fails, and it fails with `e`. -/
structure FailsFirst (x : Executor) (sent ps : List Prepared) (k : Nat) (e : QueryError) :
    Prop where
  lt : k < ps.length
  before (i : Nat) (hi : i < k) : ∃ n, x.answer sent ps i = .ok n
  fails : x.answer sent ps k = .error e

variable {x : Executor} {sent ps : List Prepared} {p : Prepared} {k : Nat} {e : QueryError}

/-- The answer to a later statement is the answer to it once the first one has been sent. -/
theorem answer_succ : x.answer sent (p :: ps) (k + 1) = x.answer (sent ++ [p]) ps k := by
  rw [answer, answer, List.take_succ_cons, List.append_assoc, List.singleton_append]

/-- If all statements are run, so are those behind the first one. -/
theorem RunsAll.tail (h : x.RunsAll sent (p :: ps)) : x.RunsAll (sent ++ [p]) ps := by
  intro k hk
  obtain ⟨n, hn⟩ := h (k + 1) (Nat.succ_lt_succ hk)
  rw [answer_succ] at hn
  exact ⟨n, hn⟩

/-- If the first statement is run and those behind it are, all are. -/
theorem RunsAll.cons {n : UInt64} (hanswer : x (sent ++ [p]) = .ok n)
    (h : x.RunsAll (sent ++ [p]) ps) : x.RunsAll sent (p :: ps) := by
  intro k hk
  rcases k with _ | k
  · exact ⟨n, hanswer⟩
  · rw [answer_succ]
    exact h k (Nat.lt_of_succ_lt_succ hk)

/-- Where the first failure is further back, it is the first one behind the first statement too. -/
theorem FailsFirst.tail (h : x.FailsFirst sent (p :: ps) (k + 1) e) :
    x.FailsFirst (sent ++ [p]) ps k e where
  lt := Nat.lt_of_succ_lt_succ h.lt
  before i hi := by
    obtain ⟨n, hn⟩ := h.before (i + 1) (Nat.succ_lt_succ hi)
    rw [answer_succ] at hn
    exact ⟨n, hn⟩
  fails := by
    rw [← answer_succ]
    exact h.fails

/-- A first failure behind a statement that is run is the first failure of all. -/
theorem FailsFirst.cons {n : UInt64} (hanswer : x (sent ++ [p]) = .ok n)
    (h : x.FailsFirst (sent ++ [p]) ps k e) : x.FailsFirst sent (p :: ps) (k + 1) e where
  lt := Nat.succ_lt_succ h.lt
  before i hi := by
    rcases i with _ | i
    · exact ⟨n, hanswer⟩
    · rw [answer_succ]
      exact h.before i (Nat.lt_of_succ_lt_succ hi)
  fails := by
    rw [answer_succ]
    exact h.fails

/-- Either all statements are run, or there is a first one that fails. -/
theorem runsAll_or_failsFirst (x : Executor) (sent ps : List Prepared) :
    x.RunsAll sent ps ∨ ∃ k e, x.FailsFirst sent ps k e := by
  -- an answer may depend on all that was sent before, so `sent` grows along
  induction ps generalizing sent with
  | nil => exact .inl fun k hk => absurd hk (Nat.not_lt_zero k)
  | cons p ps ih =>
    rcases hanswer : x (sent ++ [p]) with e | n
    · exact .inr ⟨0, e, Nat.succ_pos _, fun i hi => absurd hi (Nat.not_lt_zero i), hanswer⟩
    · rcases ih (sent ++ [p]) with hall | ⟨k, e, hfirst⟩
      · exact .inl (.cons hanswer hall)
      · exact .inr ⟨k + 1, e, .cons hanswer hfirst⟩

end Executor

/-- The outcome of a batch reports what became of its statements `ps`, all of which were run. -/
structure BatchOutcome.Reports (outcome : BatchOutcome) (x : Executor) (b : Batch)
    (ps : List Prepared) : Prop where
  statements : outcome.statements = ps.length
  length_rows : outcome.rows.length = ps.length
  length_rowsAffected : outcome.rowsAffected.length = ps.length
  /-- The spans stand one behind another from the first row to the last, and none is empty. -/
  tile : Span.Tile 0 outcome.rows b.size
  /-- Every entry is the answer to the statement at its place. -/
  answers (k : Nat) (hk : k < outcome.rowsAffected.length) :
    x (ps.take (k + 1)) = .ok outcome.rowsAffected[k]
  /-- Spans and answers are paired. -/
  spans_fst : outcome.spans.map Prod.fst = outcome.rows
  spans_snd : outcome.spans.map Prod.snd = outcome.rowsAffected

/-! ## Runs -/

namespace Compiler

open Executor

variable {x : Executor} {sent ps : List Prepared} {p : Prepared} {k : Nat} {e : QueryError}

/-- A statement that fails ends the run. -/
theorem sendAll_cons_error (h : x (sent ++ [p]) = .error e) :
    sendAll x sent (p :: ps) = (.error e, sent ++ [p]) := by
  rw [sendAll]
  simp only [h]

/-- After a statement that is answered the run goes on. -/
theorem sendAll_cons_ok {n : UInt64} (h : x (sent ++ [p]) = .ok n) :
    sendAll x sent (p :: ps) =
      ((sendAll x (sent ++ [p]) ps).1.map (n :: ·), (sendAll x (sent ++ [p]) ps).2) := by
  rw [sendAll]
  simp only [h]

/-- A run that fails sends the statements up to the first one that fails. -/
theorem sendAll_of_failsFirst (h : x.FailsFirst sent ps k e) :
    sendAll x sent ps = (.error e, sent ++ ps.take (k + 1)) := by
  -- by the statements to come; the one that is sent moves over to those sent before
  induction ps generalizing sent k with
  | nil => cases h.lt
  | cons p ps ih =>
    rcases k with _ | k
    · exact sendAll_cons_error h.fails
    · obtain ⟨n, hn⟩ := h.before 0 (Nat.succ_pos k)
      rw [sendAll_cons_ok hn, ih h.tail, List.take_succ_cons, List.append_assoc,
        List.singleton_append]
      rfl

/-- A run that does not fail sends all statements and collects the answers. -/
theorem sendAll_of_runsAll (h : x.RunsAll sent ps) :
    ∃ answers : List UInt64, sendAll x sent ps = (.ok answers, sent ++ ps) ∧
      answers.length = ps.length ∧
      ∀ (k : Nat) (hk : k < answers.length), x.answer sent ps k = .ok answers[k] := by
  induction ps generalizing sent with
  | nil =>
    refine ⟨[], ?_, rfl, fun k hk => ?_⟩
    · rw [sendAll, List.append_nil]
    · cases hk
  | cons p ps ih =>
    obtain ⟨n, hn⟩ := h 0 (Nat.succ_pos _)
    obtain ⟨answers, hrun, hlength, hanswers⟩ := ih h.tail
    refine ⟨n :: answers, ?_, ?_, ?_⟩
    · rw [sendAll_cons_ok hn, hrun, List.append_assoc, List.singleton_append]
      rfl
    · rw [List.length_cons, List.length_cons, hlength]
    · intro k hk
      rcases k with _ | k
      · exact hn
      · rw [answer_succ]
        exact hanswers k (Nat.lt_of_succ_lt_succ hk)

/-! ## Batches -/

variable {c : Compiler} {b : Batch}

/-- A batch that is rejected does not reach the executor. -/
theorem executeBatch_of_check_eq_error (h : b.check c.dialect = .error e) :
    (c.executeBatch x b).result = .error e ∧ (c.executeBatch x b).sent = [] := by
  rw [executeBatch, compileSpans, Batch.buildSpans_of_check_eq_error h]
  exact ⟨rfl, rfl⟩

/-- The rows of each statement of a batch. -/
def spans (c : Compiler) (b : Batch) : List Span :=
  b.spans c.dialect c.config.batchStrategy c.maxParams

/-- The statements of a batch. -/
def statements (c : Compiler) (b : Batch) : List Prepared :=
  (c.spans b).map (b.chunk c.dialect)

/-- A batch that passes its check is executed by sending its statements. -/
theorem executeBatch_of_check_eq_ok (h : b.check c.dialect = .ok ()) :
    (c.executeBatch x b).sent = (sendAll x [] (c.statements b)).2 ∧
      (c.executeBatch x b).result = (sendAll x [] (c.statements b)).1.map fun affected =>
        ⟨(c.spans b).length, c.spans b, affected⟩ := by
  have hstatements : ((c.spans b).map fun s => (s, b.chunk c.dialect s)).map Prod.snd =
      c.statements b := by
    rw [List.map_map]
    rfl
  have hspans : ((c.spans b).map fun s => (s, b.chunk c.dialect s)).map Prod.fst = c.spans b := by
    rw [List.map_map]
    exact List.map_id _
  rw [executeBatch, compileSpans, Batch.buildSpans_eq h]
  dsimp only
  rw [← spans, hstatements, hspans, List.length_map]
  exact ⟨rfl, rfl⟩

/-- With the answers to its statements, the spans of a batch are an outcome that reports them. -/
theorem reports (c : Compiler) {answers : List UInt64}
    (hlength : answers.length = (c.statements b).length)
    (hanswers : ∀ (k : Nat) (hk : k < answers.length),
      x.answer [] (c.statements b) k = .ok answers[k]) :
    BatchOutcome.Reports ⟨(c.spans b).length, c.spans b, answers⟩ x b (c.statements b) := by
  have hstatements : (c.spans b).length = (c.statements b).length := (List.length_map _).symm
  have hpaired : (c.spans b).length = answers.length := hstatements.trans hlength.symm
  exact {
    statements := hstatements
    length_rows := hstatements
    length_rowsAffected := hlength
    tile := b.tile_spans _ _ _
    answers := hanswers
    spans_fst := List.map_fst_zip (Nat.le_of_eq hpaired)
    spans_snd := List.map_snd_zip (Nat.le_of_eq hpaired.symm) }

/-- **An executor is sent a prefix, and the outcome is reported faithfully.**  A batch that does not
pass its check gives the error of the check, and nothing is sent.  Any other batch is built, and
either its statements are all run or there is a first one that fails.  If statement number `k` is
the first one that fails, then it and those before it are sent, and its error is the result.
If all are run, then all are sent, and the outcome reports them with the spans that they
insert. -/
theorem executeBatch_faithful (c : Compiler) (x : Executor) (b : Batch) :
    (∀ e, b.check c.dialect = .error e →
      (c.executeBatch x b).result = .error e ∧ (c.executeBatch x b).sent = []) ∧
    (b.check c.dialect = .ok () → ∃ ps : List Prepared,
      b.buildWith c.dialect c.config.batchStrategy (c.config.maxParams <|> c.dialect.maxParams) =
        .ok ps ∧
      (x.RunsAll [] ps ∨ ∃ k e, x.FailsFirst [] ps k e) ∧
      (∀ k e, x.FailsFirst [] ps k e →
        (c.executeBatch x b).result = .error e ∧ (c.executeBatch x b).sent = ps.take (k + 1)) ∧
      (x.RunsAll [] ps → (c.executeBatch x b).sent = ps ∧ ∃ outcome : BatchOutcome,
        (c.executeBatch x b).result = .ok outcome ∧ outcome.Reports x b ps ∧
        b.buildSpans c.dialect c.config.batchStrategy
          (c.config.maxParams <|> c.dialect.maxParams) = .ok (outcome.rows.zip ps))) := by
  refine ⟨fun e he => executeBatch_of_check_eq_error he, fun hcheck => ?_⟩
  obtain ⟨hsent, hresult⟩ := executeBatch_of_check_eq_ok (x := x) hcheck
  refine ⟨c.statements b, Batch.buildWith_eq hcheck, x.runsAll_or_failsFirst [] _, ?_, ?_⟩
  · intro k e hfirst
    rw [hsent, hresult, sendAll_of_failsFirst hfirst]
    exact ⟨rfl, rfl⟩
  · intro hall
    obtain ⟨answers, hrun, hlength, hanswers⟩ := sendAll_of_runsAll hall
    have hspans : ((c.spans b).map fun s => (s, b.chunk c.dialect s)) =
        (c.spans b).zip (c.statements b) := List.map_prod_left_eq_zip
    rw [hsent, hresult, hrun]
    refine ⟨rfl, ⟨(c.spans b).length, c.spans b, answers⟩, rfl, c.reports hlength hanswers, ?_⟩
    show _ = Except.ok ((c.spans b).zip (c.statements b))
    rw [← hspans]
    exact Batch.buildSpans_eq hcheck

/-- At most four values for each statement. -/
def fourAtATime : Compiler :=
  .ofConfig { dialect := .sqlite, batchStrategy := .multiRow, maxParams := some 4 }

/-- Five rows of two values each. -/
def fiveRows : Batch where
  table := { name := "t" }
  rows := [1, 2, 3, 4, 5].map fun n =>
    ⟨[(⟨"t", "id"⟩, .literal (.int n)), (⟨"t", "n"⟩, .literal .null)], by simp⟩

/-- Runs every statement but the second one. -/
def refusesSecond : Executor := fun sent =>
  if sent.length = 2 then .error (.decode "INTEGER" "too wide") else .ok 2

/-- A row in which no column is set. -/
def unsetRow : Batch where
  table := { name := "t" }
  rows := [⟨[], List.nodup_nil⟩]

/-- A row without columns is rejected and nothing is sent.  Five rows make three statements, of
which an executor that refuses the second is sent two. -/
theorem executeBatch_faithful_fiveRows :
    unsetRow.check fourAtATime.dialect = .error (.emptyAssignments .insert) ∧
      (fourAtATime.executeBatch refusesSecond unsetRow).sent = [] ∧
      fiveRows.check fourAtATime.dialect = .ok () ∧ ∃ ps : List Prepared, ps.length = 3 ∧
      refusesSecond.FailsFirst [] ps 1 (.decode "INTEGER" "too wide") ∧
      (fourAtATime.executeBatch refusesSecond fiveRows).sent = ps.take 2 ∧
      Executor.RunsAll (fun _ => .ok 2) [] ps ∧
      (fourAtATime.executeBatch (fun _ => .ok 2) fiveRows).sent = ps ∧
      ∃ outcome : BatchOutcome,
        (fourAtATime.executeBatch (fun _ => .ok 2) fiveRows).result = .ok outcome ∧
        outcome.statements = 3 ∧ Span.Tile 0 outcome.rows 5 := by
  have hreject : unsetRow.check fourAtATime.dialect = .error (.emptyAssignments .insert) := rfl
  have hcheck : fiveRows.check fourAtATime.dialect = .ok () := rfl
  obtain ⟨-, hnothing⟩ := (executeBatch_faithful fourAtATime refusesSecond unsetRow).1 _ hreject
  obtain ⟨ps, hbuild, -, hfails, -⟩ :=
    (executeBatch_faithful fourAtATime refusesSecond fiveRows).2 hcheck
  obtain ⟨ps', hbuild', -, -, hruns⟩ :=
    (executeBatch_faithful fourAtATime (fun _ => .ok 2) fiveRows).2 hcheck
  obtain rfl : ps = ps' := Except.ok.inj (hbuild.symm.trans hbuild')
  have hlength : ps.length = 3 := by
    have hcount : (fiveRows.buildWith fourAtATime.dialect fourAtATime.config.batchStrategy
        (fourAtATime.config.maxParams <|> fourAtATime.dialect.maxParams)).map List.length =
          .ok 3 := rfl
    rw [hbuild] at hcount
    exact Except.ok.inj hcount
  have hfirst : refusesSecond.FailsFirst [] ps 1 (.decode "INTEGER" "too wide") := by
    refine ⟨by omega, fun i hi => ⟨2, ?_⟩, ?_⟩
    · obtain rfl : i = 0 := by omega
      simp [Executor.answer, refusesSecond, hlength]
    · simp [Executor.answer, refusesSecond, hlength]
  have hall : Executor.RunsAll (fun _ => .ok 2) [] ps := fun _ _ => ⟨2, rfl⟩
  obtain ⟨hsent, outcome, hresult, hreports, -⟩ := hruns hall
  exact ⟨hreject, hnothing, hcheck, ps, hlength, hfirst, (hfails _ _ hfirst).2, hall, hsent,
    outcome, hresult, hreports.statements.trans hlength, hreports.tile⟩

end Compiler

end BoundSql
