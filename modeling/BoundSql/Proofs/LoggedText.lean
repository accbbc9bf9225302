import BoundSql.Compiler.Basic

/-!
# The text of a statement in the log

A statement that is too long for the log is cut at a place that is looked for from the limit
towards the front.  Said without bytes, a place where no character is cut in two is one where the
text falls into two texts (`isBoundary_iff`).  The front is such a place, so the search ends at one,
and as each step back passes over a place that is none, it ends at the last one
(`le_lastBoundary`).

What is in front of it is all that fits: the next character ends at the next such place, which is
behind the limit (`lt_add_utf8Size_of_lastBoundary`, `keeps_lastBoundary`).

Main statement: `Compiler.logged_text_safe_and_tight`.
-/

namespace BoundSql

variable {text front back : String} {m n : Nat}

/-! ## Boundaries -/

/-- No character is cut in two exactly where the text falls into two texts. -/
theorem isBoundary_iff :
    isBoundary text n ↔ ∃ front back : String, text = front ++ back ∧ front.utf8ByteSize = n := by
  rw [isBoundary, String.Pos.Raw.isValid_eq_true_iff, String.Pos.Raw.isValid_iff_exists_append]
  constructor
  · rintro ⟨front, back, happend, hend⟩
    exact ⟨front, back, happend, (congrArg String.Pos.Raw.byteIdx hend).symm⟩
  · rintro ⟨front, back, happend, rfl⟩
    exact ⟨front, back, happend, rfl⟩

/-- Where the text falls into two texts, its first bytes are the first of them. -/
theorem firstBytes?_append (front back : String) :
    firstBytes? (front ++ back) front.utf8ByteSize = some front := by
  have hboundary : isBoundary (front ++ back) front.utf8ByteSize :=
    isBoundary_iff.mpr ⟨front, back, rfl, rfl⟩
  rw [firstBytes?, dif_pos hboundary, Option.some_inj]
  exact String.Pos.splits_append_rawEndPos.copy_sliceTo_eq

/-! ## The search -/

/-- From a boundary there is nowhere to go. -/
theorem lastBoundary_of_isBoundary (h : isBoundary text n) : lastBoundary text n = n := by
  rcases n with _ | n
  · rfl
  · rw [lastBoundary, if_pos h]

/-- From anywhere else the search goes one byte to the front. -/
theorem lastBoundary_succ_of_not_isBoundary (h : ¬ isBoundary text (n + 1)) :
    lastBoundary text (n + 1) = lastBoundary text n := by
  rw [lastBoundary, if_neg h]

/-- The search goes to the front only. -/
theorem lastBoundary_le (text : String) (n : Nat) : lastBoundary text n ≤ n := by
  induction n with
  | zero => exact Nat.le_refl 0
  | succ n ih =>
    by_cases h : isBoundary text (n + 1)
    · exact Nat.le_of_eq (lastBoundary_of_isBoundary h)
    · rw [lastBoundary_succ_of_not_isBoundary h]
      exact Nat.le_succ_of_le ih

/-- The search passes over no boundary. -/
theorem le_lastBoundary (hm : isBoundary text m) (hle : m ≤ n) : m ≤ lastBoundary text n := by
  induction n with
  | zero => exact hle
  | succ n ih =>
    by_cases h : isBoundary text (n + 1)
    · rwa [lastBoundary_of_isBoundary h]
    · rw [lastBoundary_succ_of_not_isBoundary h]
      -- `m` is not the place that is passed over, so it is further to the front
      have hne : m ≠ n + 1 := fun heq => h (heq ▸ hm)
      exact ih (by omega)

/-- Where the search ends, the text falls into two texts, and the first of them can be given. -/
theorem exists_firstBytes?_lastBoundary (text : String) (n : Nat) :
    ∃ front back : String, text = front ++ back ∧
      firstBytes? text (lastBoundary text n) = some front ∧
      front.utf8ByteSize = lastBoundary text n := by
  obtain ⟨front, back, rfl, hsize⟩ := isBoundary_iff.mp (isBoundary_lastBoundary text n)
  exact ⟨front, back, rfl, hsize ▸ firstBytes?_append front back, hsize⟩

/-- The character behind the place where the search ends goes on behind where it began. -/
theorem lt_add_utf8Size_of_lastBoundary {next : Char} {rest : String}
    (happend : text = front ++ (String.singleton next ++ rest))
    (hsize : front.utf8ByteSize = lastBoundary text n) :
    n < front.utf8ByteSize + next.utf8Size := by
  refine Nat.lt_of_not_le fun hle => ?_
  have hend : (front ++ String.singleton next).utf8ByteSize =
      front.utf8ByteSize + next.utf8Size := by
    rw [String.utf8ByteSize_append, String.utf8ByteSize_singleton]
  have hboundary : isBoundary text (front.utf8ByteSize + next.utf8Size) :=
    isBoundary_iff.mpr ⟨_, rest, happend.trans String.append_assoc.symm, hend⟩
  have hpassed := le_lastBoundary hboundary hle
  have hpos := next.utf8Size_pos
  omega

/-! ## What is kept -/

/-- `kept` is as much of a text as fits into `max` bytes, and it is not all of the text. -/
structure Keeps (text : String) (max : Nat) (kept : String) : Prop where
  fits : kept.utf8ByteSize ≤ max
  /-- Whole characters follow, and with the next one it would be too much. -/
  tight : ∃ (next : Char) (rest : String),
    text = kept ++ (String.singleton next ++ rest) ∧ max < kept.utf8ByteSize + next.utf8Size
  /-- Every front of the text that fits is a front of it. -/
  longest (front back : String) (happend : text = front ++ back)
    (hfits : front.utf8ByteSize ≤ max) : ∃ more : String, kept = front ++ more

/-- Of two fronts of a text, the one that has no more bytes is the front of the other one. -/
theorem exists_eq_append_of_utf8ByteSize_le {front' back' : String}
    (h : text = front ++ back) (h' : text = front' ++ back')
    (hle : front.utf8ByteSize ≤ front'.utf8ByteSize) : ∃ more : String, front' = front ++ more := by
  have hsplits := String.Pos.splits_ofEqAppend h
  have hsplits' := String.Pos.splits_ofEqAppend h'
  have hpos : String.Pos.ofEqAppend h ≤ String.Pos.ofEqAppend h' := by
    rw [String.Pos.le_iff, hsplits.offset_eq_rawEndPos, hsplits'.offset_eq_rawEndPos]
    exact hle
  obtain ⟨more, hmore, -⟩ := (hsplits.le_iff_exists_eq_append hsplits').mp hpos
  exact ⟨more, hmore⟩

/-- A text that is not empty begins with a character. -/
theorem exists_eq_singleton_append {s : String} (h : s ≠ "") :
    ∃ (c : Char) (rest : String), s = String.singleton c ++ rest := by
  have hne : s.startPos ≠ s.endPos := fun heq => h (String.startPos_eq_endPos_iff.mp heq)
  obtain ⟨rest, hrest⟩ := s.splits_startPos.exists_eq_singleton_append hne
  exact ⟨_, rest, hrest⟩

/-- Of a text that does not fit, the search finds what is kept. -/
theorem keeps_lastBoundary {max : Nat} (hlong : max < text.utf8ByteSize) :
    ∃ kept : String, firstBytes? text (lastBoundary text max) = some kept ∧
      kept.utf8ByteSize = lastBoundary text max ∧ Keeps text max kept := by
  obtain ⟨kept, back, happend, hfirst, hsize⟩ := exists_firstBytes?_lastBoundary text max
  have hfits : kept.utf8ByteSize ≤ max := hsize ▸ lastBoundary_le text max
  have hback : back ≠ "" := by
    rintro rfl
    rw [happend, String.append_empty] at hlong
    omega
  obtain ⟨next, rest, rfl⟩ := exists_eq_singleton_append hback
  refine ⟨kept, hfirst, hsize, hfits, ?_, fun front back hother hfront => ?_⟩
  · exact ⟨next, rest, happend, lt_add_utf8Size_of_lastBoundary happend hsize⟩
  · have hle := le_lastBoundary (isBoundary_iff.mpr ⟨front, back, hother, rfl⟩) hfront
    exact exists_eq_append_of_utf8ByteSize_le hother happend (hsize ▸ hle)

/-- No character has more than four bytes, so at most three are left over. -/
theorem Keeps.le_add_three {max : Nat} {kept : String} (h : Keeps text max kept) :
    max ≤ kept.utf8ByteSize + 3 := by
  obtain ⟨next, rest, -, hlt⟩ := h.tight
  have hfour := next.utf8Size_le_four
  omega

/-! ## What is logged -/

/-- A text that fits is logged as it is. -/
theorem truncated?_of_fits {limit : Option Nat}
    (h : ∀ max ∈ limit, text.utf8ByteSize ≤ max) : truncated? limit text = some text := by
  rcases limit with _ | max
  · rfl
  · rw [truncated?]
    exact if_pos (h max rfl)

/-- Of a longer text, dots stand for what is behind the last boundary. -/
theorem truncated?_of_firstBytes {max : Nat} {kept : String} (hlong : max < text.utf8ByteSize)
    (h : firstBytes? text (lastBoundary text max) = some kept) :
    truncated? (some max) text = some (kept ++ "...") := by
  rw [truncated?, if_neg (Nat.not_le.mpr hlong), h, Option.map_some]

/-- There is always a text to log. -/
theorem truncated?_eq_some (limit : Option Nat) (text : String) :
    truncated? limit text = some (truncated limit text) :=
  (Option.some_get _).symm

namespace Compiler

/-- **What is logged of a statement is all of it, or as much as fits.**  Wherever the search for a
place to cut at begins, it ends at one, and the text in front of it can be given.  So whatever the
configuration, there is a text to log, and it is what the event shows.  It is the text of the
statement if there is no limit or if the statement has no more bytes than that.  Otherwise it is
three dots behind what is in front of the place that the search from the limit finds, at most three
bytes away: whole characters that fit, the most of them, as the next one would be too much. -/
theorem logged_text_safe_and_tight (c : Compiler) (kind : StatementKind) (p : Prepared) :
    (∀ n, ∃ front back : String, p.sql = front ++ back ∧
      firstBytes? p.sql (lastBoundary p.sql n) = some front ∧
      front.utf8ByteSize = lastBoundary p.sql n ∧ lastBoundary p.sql n ≤ n) ∧
    ∃ shown : String, truncated? c.config.maxLoggedSqlLength p.sql = some shown ∧
      c.compiledEvents kind p =
        (if c.config.logSql then [.compiled kind c.dialect.name p.params.length shown] else []) ∧
      ((∀ max ∈ c.config.maxLoggedSqlLength, p.sql.utf8ByteSize ≤ max) → shown = p.sql) ∧
      ∀ max ∈ c.config.maxLoggedSqlLength, max < p.sql.utf8ByteSize →
        ∃ kept : String, shown = kept ++ "..." ∧ Keeps p.sql max kept ∧
          kept.utf8ByteSize = lastBoundary p.sql max ∧ max ≤ lastBoundary p.sql max + 3 := by
  refine ⟨fun n => ?_, truncated c.config.maxLoggedSqlLength p.sql, truncated?_eq_some _ _, rfl,
    fun hfits => ?_, fun max hmax hlong => ?_⟩
  · obtain ⟨front, back, happend, hfirst, hsize⟩ := exists_firstBytes?_lastBoundary p.sql n
    exact ⟨front, back, happend, hfirst, hsize, lastBoundary_le p.sql n⟩
  · rw [← Option.some_inj, ← truncated?_eq_some]
    exact truncated?_of_fits hfits
  · obtain ⟨kept, hfirst, hsize, hkeeps⟩ := keeps_lastBoundary hlong
    refine ⟨kept, ?_, hkeeps, hsize, hsize ▸ hkeeps.le_add_three⟩
    rw [← Option.some_inj, ← truncated?_eq_some, Option.mem_def.mp hmax]
    exact truncated?_of_firstBytes hlong hfirst

/-- At most eight bytes are logged. -/
def eightBytes : Compiler := .ofConfig { maxLoggedSqlLength := some 8 }

/-- Characters of two, three and four bytes. -/
def wideCharacters : Prepared := ⟨"é€𝒫", []⟩

/-- Of characters of two, three and four bytes the first two fit into eight bytes, and the third is
cut off as a whole. -/
theorem logged_text_safe_and_tight_wideCharacters :
    8 ∈ eightBytes.config.maxLoggedSqlLength ∧ 8 < wideCharacters.sql.utf8ByteSize ∧
      lastBoundary wideCharacters.sql 8 = 5 ∧ Keeps wideCharacters.sql 8 "é€" ∧
      eightBytes.compiledEvents .select wideCharacters = [.compiled .select "generic" 0 "é€..."] := by
  have hmax : 8 ∈ eightBytes.config.maxLoggedSqlLength := rfl
  have hlong : 8 < wideCharacters.sql.utf8ByteSize := by decide
  have hplace : lastBoundary wideCharacters.sql 8 = 5 := by decide
  have hcut : truncated? (some 8) wideCharacters.sql = some ("é€" ++ "...") := by decide
  obtain ⟨-, shown, hshown, hevents, -, hkept⟩ :=
    logged_text_safe_and_tight eightBytes .select wideCharacters
  obtain rfl : "é€" ++ "..." = shown := Option.some.inj (hcut.symm.trans hshown)
  obtain ⟨kept, hdots, hkeeps, -⟩ := hkept 8 hmax hlong
  obtain rfl : "é€" = kept := (String.append_left_inj "...").mp hdots
  exact ⟨hmax, hlong, hplace, hkeeps, hevents⟩

end Compiler

end BoundSql
