import BoundSql.Dialect.BuiltIn
import BoundSql.Proofs.Template
import BoundSql.Query.Fragment

/-!
# The markers that SQL of the caller binds

A question mark in SQL of the caller stands for a value unless it is quoted.  What is quoted is said
here without a reader: a text is whole if it consists of plain characters and of regions, each of
which ends at the next mark of the kind that it began with, and a question mark is live if the text
in front of it is whole (`Quoting.IsLive`).  So a question mark behind a mark that nothing closes is
not live.

Main statement: `Template.binds_live_markers`.  The first live markers take the values, one each, as
long as there are both; every other character stays as it is and where it is.
-/

namespace BoundSql

/-! ## Quoted regions -/

namespace Quoting

/-- The text consists of characters that are no marks and of quoted regions that are closed. -/
inductive Whole : List Char → Prop where
  | nil : Whole []
  | plain {c : Char} {cs : List Char} : isMark c = false → Whole cs → Whole (c :: cs)
  | region {mark : Char} {inner cs : List Char} :
    isMark mark = true → mark ∉ inner → Whole cs → Whole (mark :: (inner ++ mark :: cs))

/-- A reader who gets out of a quoted run has met the mark that ends it. -/
theorem exists_region {mark : Char} {cs : List Char} (h : cs.foldl step (some mark) = none) :
    ∃ inner rest, cs = inner ++ mark :: rest ∧ mark ∉ inner ∧ rest.foldl step none = none := by
  induction cs with
  | nil => cases h
  | cons c cs ih =>
    rw [List.foldl_cons, step_inside] at h
    by_cases hc : c = mark
    · rw [if_pos hc] at h
      exact ⟨[], cs, by rw [hc, List.nil_append], List.not_mem_nil, h⟩
    · rw [if_neg hc] at h
      obtain ⟨inner, rest, rfl, hinner, hrest⟩ := ih h
      exact ⟨c :: inner, rest, rfl, by simp [hinner, Ne.symm hc], hrest⟩

/-- A whole text leads the reader out of every quoted run it has led into. -/
theorem Whole.foldl_step {cs : List Char} (h : Whole cs) : cs.foldl step none = none := by
  induction h with
  | nil => rfl
  | plain hc _ ih => rw [List.foldl_cons, step_outside, hc, if_neg Bool.false_ne_true, ih]
  | region hmark hinner _ ih =>
    rw [List.foldl_cons, step_outside, if_pos hmark, List.foldl_append, foldl_step_inside hinner,
      List.foldl_cons, step_inside, if_pos rfl, ih]

/-- A text that does so is whole: each run in it comes to its end. -/
theorem whole_of_foldl_step (cs : List Char) (h : cs.foldl step none = none) : Whole cs := by
  match cs with
  | [] => exact .nil
  | c :: cs =>
    rw [List.foldl_cons, step_outside] at h
    cases hc : isMark c with
    | false =>
      rw [hc, if_neg Bool.false_ne_true] at h
      exact .plain hc (whole_of_foldl_step cs h)
    | true =>
      rw [hc, if_pos rfl] at h
      obtain ⟨inner, rest, hcs, hinner, hrest⟩ := exists_region h
      have hlt : rest.length < cs.length := by
        rw [hcs, List.length_append, List.length_cons]
        omega
      rw [hcs]
      exact .region hc hinner (whole_of_foldl_step rest hrest)
termination_by cs.length

/-- Whole texts are those behind which a reader is outside quoted runs. -/
theorem whole_iff (cs : List Char) : Whole cs ↔ cs.foldl step none = none :=
  ⟨Whole.foldl_step, whole_of_foldl_step cs⟩

/-- Whether a text is whole can be computed. -/
instance : DecidablePred Whole := fun cs => decidable_of_iff _ (whole_iff cs).symm

/-! ## Live markers -/

/-- At this place there is a question mark that is not quoted. -/
def IsLive (cs : List Char) (i : Nat) : Prop := cs[i]? = some '?' ∧ Whole (cs.take i)

/-- Whether a question mark is live can be computed. -/
instance (cs : List Char) (i : Nat) : Decidable (IsLive cs i) :=
  inferInstanceAs (Decidable (_ ∧ _))

/-- The number of live markers in front of a place. -/
def liveBefore (cs : List Char) (i : Nat) : Nat := (List.range i).countP fun k => IsLive cs k

/-- The number of live markers. -/
def liveCount (cs : List Char) : Nat := liveBefore cs cs.length

/-- Each live mark counts once, where it stands. -/
theorem liveBefore_succ (cs : List Char) (i : Nat) :
    liveBefore cs (i + 1) = liveBefore cs i + if IsLive cs i then 1 else 0 := by
  simp [liveBefore, List.range_succ, List.countP_singleton]

/-- Further to the back no fewer live marks are in front. -/
theorem liveBefore_mono (cs : List Char) {i k : Nat} (h : i ≤ k) :
    liveBefore cs i ≤ liveBefore cs k := by
  induction h with
  | refl => exact Nat.le_refl _
  | step _ ih =>
    rw [liveBefore_succ]
    exact Nat.le_add_right_of_le ih

/-- In front of a live marker there are not all of them. -/
theorem IsLive.liveBefore_lt {cs : List Char} {i : Nat} (h : IsLive cs i) :
    liveBefore cs i < liveCount cs := by
  have hlt : i < cs.length := (List.getElem?_eq_some_iff.mp h.1).1
  have hmono := liveBefore_mono cs hlt
  rw [Nat.succ_eq_add_one, liveBefore_succ, if_pos h] at hmono
  exact hmono

/-- Whether the next character is live shows in where the reader stands. -/
theorem isLive_append_cons (before rest : List Char) (c : Char) :
    IsLive (before ++ c :: rest) before.length ↔ c = '?' ∧ before.foldl step none = none := by
  simp [IsLive, whole_iff]

/-- The live markers still to come are those that a reader meets. -/
theorem count_unquoted (before rest : List Char) :
    liveBefore (before ++ rest) before.length +
        (unquoted (before.foldl step none) rest).count '?' =
      liveCount (before ++ rest) := by
  -- the character that is read moves over to those in front
  induction rest generalizing before with
  | nil => simp [liveCount, unquoted]
  | cons c rest ih =>
    have hstep := ih (before ++ [c])
    rw [List.append_assoc, List.singleton_append, List.length_append, List.length_singleton,
      liveBefore_succ, List.foldl_append, List.foldl_cons, List.foldl_nil] at hstep
    rw [← hstep, Nat.add_assoc]
    congr 1
    cases hquote : before.foldl step none with
    | some q => simp [isLive_append_cons, hquote, unquoted]
    | none =>
      by_cases hc : c = '?' <;> simp [isLive_append_cons, hquote, unquoted, hc, Nat.add_comm]

end Quoting

/-! ## Templates -/

namespace Template

open Quoting

/-- What is written for the character at a place, if so many values are placed behind `n` that are
bound already. -/
def written (d : Dialect) (n placed : Nat) (cs : List Char) (i : Nat) (c : Char) : String :=
  if IsLive cs i ∧ liveBefore cs i < placed then d.placeholder (n + liveBefore cs i + 1)
  else String.singleton c

/-- A live marker takes the next value. -/
theorem pieces_live {vs : List Value} {placed : Nat} {rest : List Char}
    (h : placed < vs.length) :
    pieces none (vs.drop placed) ('?' :: rest) =
      .bound vs[placed] :: pieces none (vs.drop (placed + 1)) rest := by
  rw [List.drop_eq_getElem_cons h, pieces]

/-- Any other character is copied, and so is a live marker for which there is no value. -/
theorem pieces_copied {quote : Option Char} {vs : List Value} {c : Char} (rest : List Char)
    (h : ¬(c = '?' ∧ quote = none) ∨ vs = []) :
    pieces quote vs (c :: rest) =
      (String.singleton c : Piece) :: pieces (step quote c) vs rest := by
  rw [pieces]
  rintro v vs' rfl rfl rfl
  rcases h with h | h
  · exact h ⟨rfl, rfl⟩
  · cases h

/-- The text of what is still to be read, wherever the reader stands: the values for the live
markers in front have been placed, as far as there are any. -/
theorem textFrom_pieces (d : Dialect) (n : Nat) (vs : List Value) (before rest : List Char) :
    Fragment.textFrom d (n + min (liveBefore (before ++ rest) before.length) vs.length)
        (pieces (before.foldl step none)
          (vs.drop (liveBefore (before ++ rest) before.length)) rest) =
      String.join (rest.mapIdx fun i c =>
        written d n vs.length (before ++ rest) (before.length + i) c) := by
  induction rest generalizing before with
  | nil => simp [pieces]
  | cons c rest ih =>
    have hrest := ih (before ++ [c])
    rw [List.append_assoc, List.singleton_append, List.length_append, List.length_singleton,
      liveBefore_succ, List.foldl_append, List.foldl_cons, List.foldl_nil] at hrest
    have hhead : String.join ((c :: rest).mapIdx fun i c' =>
          written d n vs.length (before ++ c :: rest) (before.length + i) c') =
        written d n vs.length (before ++ c :: rest) before.length c ++
          String.join (rest.mapIdx fun i c' =>
            written d n vs.length (before ++ c :: rest) (before.length + 1 + i) c') := by
      simp only [List.mapIdx_cons, String.join_cons, Nat.add_zero, Nat.add_assoc, Nat.add_comm 1]
    rw [hhead, ← hrest, written]
    by_cases hlive : IsLive (before ++ c :: rest) before.length
    · obtain ⟨rfl, hquote⟩ := (isLive_append_cons before rest c).mp hlive
      have hstep : step none '?' = none := by decide
      by_cases hplaced : liveBefore (before ++ '?' :: rest) before.length < vs.length
      · rw [if_pos ⟨hlive, hplaced⟩, if_pos hlive, hquote, hstep, pieces_live hplaced,
          Fragment.textFrom_bound, Nat.min_eq_left (Nat.le_of_lt hplaced),
          Nat.min_eq_left hplaced, Nat.add_assoc n]
      -- no value is left for this marker, so it is copied
      · rw [if_neg (fun h => hplaced h.2), if_pos hlive,
          List.drop_eq_nil_of_le (Nat.le_of_not_lt hplaced),
          List.drop_eq_nil_of_le (Nat.le_succ_of_le (Nat.le_of_not_lt hplaced)),
          pieces_copied rest (.inr rfl), Fragment.textFrom_word, Word.write_verbatim,
          Nat.min_eq_right (Nat.le_of_not_lt hplaced),
          Nat.min_eq_right (Nat.le_succ_of_le (Nat.le_of_not_lt hplaced))]
    · have hcopied := mt (isLive_append_cons before rest c).mpr hlive
      rw [if_neg (fun h => hlive h.1), if_neg hlive, Nat.add_zero,
        pieces_copied rest (.inl hcopied), Fragment.textFrom_word, Word.write_verbatim]

/-- The text of a template is what is written for its characters, one by one. -/
theorem sql_write_fragment (d : Dialect) (params : Array Value) (t : Template) :
    (t.fragment.write d params).sql =
      String.join (t.sql.toList.mapIdx
        (written d params.size t.params.length t.sql.toList)) := by
  have htext := textFrom_pieces d params.size t.params [] t.sql.toList
  simp only [List.nil_append, List.length_nil, Nat.zero_add] at htext
  rw [← htext]
  exact Fragment.sql_write d params t.fragment

/-- There are never more values placed than there are live markers. -/
theorem written_min (d : Dialect) (n count : Nat) (cs : List Char) :
    written d n count cs = written d n (min (liveCount cs) count) cs := by
  funext i c
  have hplaced (hlive : IsLive cs i) :
      liveBefore cs i < min (liveCount cs) count ↔ liveBefore cs i < count := by
    have hlt := hlive.liveBefore_lt
    omega
  rw [written, written]
  by_cases hlive : IsLive cs i
  · simp only [hplaced hlive]
  · rw [if_neg (fun h => hlive h.1), if_neg (fun h => hlive h.1)]

/-- Where placeholders are question marks, nothing is replaced by something else. -/
theorem join_written_of_marks {d : Dialect} (hmarks : ∀ n, d.placeholder n = "?")
    (n placed : Nat) (cs : List Char) :
    String.join (cs.mapIdx (written d n placed cs)) = String.ofList cs := by
  have hcopied : cs.mapIdx (written d n placed cs) = cs.map String.singleton := by
    refine List.ext_getElem (by simp) fun i _ hi => ?_
    rw [List.length_map] at hi
    rw [List.getElem_mapIdx, List.getElem_map, written, hmarks]
    split
    · next h =>
      have hmark : cs[i] = '?' := (List.getElem?_eq_some_iff.mp h.1.1).2
      rw [hmark]
      rfl
    · rfl
  rw [hcopied]
  exact String.toList_inj.mp (by simp [List.flatMap_map])

/-- **SQL of the caller binds its live markers.**  The first of them take the values, in order, as
long as there are both, and each is written as the next placeholder.  All else stays in place:
every other character is written as it is, whatever it is.  Where placeholders are question marks
the text stays as a whole. -/
theorem binds_live_markers (d : Dialect) (params : Array Value) (t : Template) :
    let cs := t.sql.toList
    let placed := min (liveCount cs) t.params.length
    let draft := t.fragment.write d params
    (Expr.raw t).fragment d = t.fragment ∧ (Predicate.raw t).fragment d = t.fragment ∧
    draft.params.toList = params.toList ++ t.params.take placed ∧
    draft.sql = String.join (cs.mapIdx fun i c =>
      if IsLive cs i ∧ liveBefore cs i < placed then
        d.placeholder (params.size + liveBefore cs i + 1)
      else String.singleton c) ∧
    ((∀ n, d.placeholder n = "?") → draft.sql = t.sql) := by
  intro cs placed draft
  have hsql : draft.sql = String.join (cs.mapIdx (written d params.size placed cs)) := by
    rw [← written_min]
    exact sql_write_fragment d params t
  refine ⟨?_, ?_, ?_, hsql, ?_⟩
  · rw [Expr.fragment]
  · rw [Predicate.fragment]
  · have hcount : (unquoted none cs).count '?' = liveCount cs := by
      simpa [liveBefore] using count_unquoted [] cs
    rw [Fragment.params_write, fragment, values_pieces, hcount, ← List.take_eq_take_min]
  · intro hmarks
    rw [hsql, join_written_of_marks hmarks, String.ofList_toList]

/-- Four question marks are quoted, one of them behind an apostrophe that nothing closes; of the
other three, two get a value. -/
def quotedMarkers : Template where
  sql := "a = ? AND b = 'it''s ?' AND \"c?\" IN (?, ?, `\"?`) AND d = 'e ?"
  params := [.bool true, .text "x"]

/-- Of the three live marks in the template two have a value; the third and those in quotes stay as
they are. -/
theorem binds_live_markers_quotedMarkers :
    (quotedMarkers.fragment.write Dialect.postgres #[.null]).sql =
      "a = $2 AND b = 'it''s ?' AND \"c?\" IN ($3, ?, `\"?`) AND d = 'e ?" ∧
    (quotedMarkers.fragment.write Dialect.postgres #[.null]).params.toList =
      [.null, .bool true, .text "x"] ∧
    (quotedMarkers.fragment.write Dialect.mysql #[.null]).sql = quotedMarkers.sql := by
  obtain ⟨-, -, hparams, hsql, -⟩ := binds_live_markers Dialect.postgres #[.null] quotedMarkers
  obtain ⟨-, -, -, -, hmarks⟩ := binds_live_markers Dialect.mysql #[.null] quotedMarkers
  have hcount : liveCount quotedMarkers.sql.toList = 3 := by decide +kernel
  rw [hcount] at hparams
  exact ⟨hsql.trans (by decide +kernel), hparams, hmarks fun _ => rfl⟩

end Template

end BoundSql
