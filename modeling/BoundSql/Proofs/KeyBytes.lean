import BoundSql.Proofs.DisplayText
import BoundSql.Proofs.Literals

/-!
# Keys are unambiguous

A cache key is the digest of one run of bytes: the SQL text, and the display form of each value
behind a zero byte.  Two statements that are fed to the digest as the same bytes share the cached
result, so the bytes have to tell everything apart that matters.

Nothing keeps a value from having zero bytes of its own.  What tells the zero bytes that separate
from those that belong to a text is that every display form is settled: the latter stand inside
quoted runs.  `Prepared.readKey` is the reader that makes use of it.  It takes everything before
the first NUL for the SQL text and cuts the rest at NULs outside quoted runs, and it gives back
what was put together (`Prepared.readKey_keyChars`).

Main statement: `keys_unambiguous`.
-/

namespace BoundSql

namespace Prepared

/-! ## Bytes and characters -/

/-- Two texts have the bytes of the one and then of the other. -/
theorem bytesOf_append (s t : String) : bytesOf (s ++ t) = bytesOf s ++ bytesOf t := by
  simp only [bytesOf, String.toUTF8_eq_toByteArray, String.toByteArray_append,
    ByteArray.toList_data_append]

/-- Different texts have different bytes. -/
theorem bytesOf_inj {s t : String} : bytesOf s = bytesOf t ↔ s = t := by
  refine ⟨fun h => ?_, fun h => congrArg bytesOf h⟩
  have hdata : s.toUTF8.data = t.toUTF8.data := Array.toList_inj.mp h
  have hbytes : s.toByteArray = t.toByteArray := ByteArray.ext hdata
  exact String.toByteArray_inj.mp hbytes

/-- The characters of what a key is made from. -/
def keyChars (p : Prepared) : List Char :=
  p.sql.toList ++ (p.params.map fun v => v.display.toList).flatMap ('\x00' :: ·)

/-- The bytes of a key are those of its characters. -/
theorem keyBytes_eq (p : Prepared) : p.keyBytes = bytesOf (String.ofList p.keyChars) := by
  have hparams (vs : List Value) :
      (vs.flatMap fun v => 0 :: bytesOf v.display) =
        bytesOf (String.ofList ((vs.map fun v => v.display.toList).flatMap ('\x00' :: ·))) := by
    induction vs with
    | nil => rfl
    | cons v vs ih =>
      have hfirst : String.ofList ('\x00' :: v.display.toList) = "\x00" ++ v.display :=
        String.toList_inj.mp (by simp)
      have hzero : bytesOf "\x00" = [0] := by decide
      rw [List.flatMap_cons, ih, List.map_cons, List.flatMap_cons, String.ofList_append, hfirst,
        bytesOf_append, bytesOf_append, hzero]
      rfl
  rw [keyBytes, keyChars, hparams, String.ofList_append, String.ofList_toList, bytesOf_append]

/-- So keys with the same bytes have the same characters. -/
theorem keyBytes_inj {p q : Prepared} : p.keyBytes = q.keyBytes ↔ p.keyChars = q.keyChars := by
  rw [keyBytes_eq, keyBytes_eq, bytesOf_inj, String.ofList_inj]

/-! ## Reading a key -/

/-- The pieces between the NULs outside quoted runs, from where the reader stands and given what
has been read of the first piece. -/
def cutFrom : Option Char → List Char → List Char → List (List Char)
  | _, read, [] => [read]
  | none, read, c :: cs =>
    if c = '\x00' then read :: cutFrom none [] cs
    else cutFrom (Quoting.step none c) (read ++ [c]) cs
  | some q, read, c :: cs => cutFrom (Quoting.step (some q) c) (read ++ [c]) cs

/-- The display forms that follow the SQL text of a key. -/
def readParams : List Char → List (List Char)
  | [] => []
  | _ :: cs => cutFrom none [] cs

/-- The SQL text and the display forms. -/
def readKey (cs : List Char) : List Char × List (List Char) :=
  (cs.takeWhile (· != '\x00'), readParams (cs.dropWhile (· != '\x00')))

/-- The reader does not cut where there is no NUL outside quoted runs. -/
theorem cutFrom_append {quote : Option Char} {cs : List Char}
    (h : '\x00' ∉ Quoting.unquoted quote cs) (read rest : List Char) :
    cutFrom quote read (cs ++ rest) = cutFrom (cs.foldl Quoting.step quote) (read ++ cs) rest := by
  induction cs generalizing quote read with
  | nil => rw [List.nil_append, List.append_nil, List.foldl_nil]
  | cons c cs ih =>
    have hread : read ++ c :: cs = read ++ [c] ++ cs := by
      rw [List.append_assoc, List.singleton_append]
    rcases quote with _ | q
    · rw [Quoting.unquoted, List.mem_cons, not_or] at h
      rw [List.cons_append, cutFrom, if_neg (Ne.symm h.1), ih h.2, List.foldl_cons, hread]
    · rw [Quoting.unquoted] at h
      rw [List.cons_append, cutFrom, ih h, List.foldl_cons, hread]

/-- Settled pieces behind one NUL each are read back. -/
theorem cutFrom_pieces {piece : List Char} {pieces : List (List Char)}
    (h : Quoting.Settled piece) (hs : ∀ cs ∈ pieces, Quoting.Settled cs) :
    cutFrom none [] (piece ++ pieces.flatMap ('\x00' :: ·)) = piece :: pieces := by
  induction pieces generalizing piece with
  | nil => rw [List.flatMap_nil, cutFrom_append h.noNul, h.ends, List.nil_append, cutFrom]
  | cons next pieces ih =>
    -- behind a settled piece the reader is outside, so the NUL that follows is where it cuts
    rw [List.forall_mem_cons] at hs
    rw [cutFrom_append h.noNul, h.ends, List.nil_append, List.flatMap_cons, List.cons_append,
      cutFrom, if_pos rfl, ih hs.1 hs.2]

/-- Settled pieces, each behind a NUL, are the parameters read. -/
theorem readParams_pieces {pieces : List (List Char)} (hs : ∀ cs ∈ pieces, Quoting.Settled cs) :
    readParams (pieces.flatMap ('\x00' :: ·)) = pieces := by
  rcases pieces with _ | ⟨piece, pieces⟩
  · rfl
  · rw [List.forall_mem_cons] at hs
    rw [List.flatMap_cons, List.cons_append, readParams, cutFrom_pieces hs.1 hs.2]

/-- **Keys are read back.**  The reader gives back the SQL text and the display forms that a key was
made from. -/
theorem readKey_keyChars {p : Prepared} (h : '\x00' ∉ p.sql.toList) :
    readKey p.keyChars = (p.sql.toList, p.params.map fun v => v.display.toList) := by
  have hsql : ∀ c ∈ p.sql.toList, (c != '\x00') = true := by
    intro c hc
    rw [bne_iff_ne]
    rintro rfl
    exact h hc
  have hsettled : ∀ cs ∈ p.params.map fun v => v.display.toList, Quoting.Settled cs := by
    rw [List.forall_mem_map]
    exact fun v _ => v.settled_display
  have hpieces := readParams_pieces hsettled
  rw [readKey, keyChars, List.takeWhile_append_of_pos hsql, List.dropWhile_append_of_pos hsql]
  generalize (p.params.map fun v => v.display.toList) = pieces at hpieces
  rcases pieces with _ | ⟨piece, pieces⟩
  · rw [List.flatMap_nil, List.takeWhile_nil, List.append_nil]
    rfl
  · rw [List.flatMap_cons, List.cons_append] at hpieces ⊢
    rw [List.takeWhile_cons_of_neg (by decide), List.dropWhile_cons_of_neg (by decide),
      List.append_nil, hpieces]

/-- Keys agree only if the SQL texts and all display forms do. -/
theorem keyChars_inj {p q : Prepared} (hp : '\x00' ∉ p.sql.toList) (hq : '\x00' ∉ q.sql.toList) :
    p.keyChars = q.keyChars ↔
      p.sql = q.sql ∧ p.params.map Value.display = q.params.map Value.display := by
  have hlists (r : Prepared) :
      (r.params.map fun v => v.display.toList) =
        (r.params.map Value.display).map String.toList := by
    rw [List.map_map]
    rfl
  constructor
  · intro h
    have hread := congrArg readKey h
    rw [readKey_keyChars hp, readKey_keyChars hq, Prod.mk.injEq, String.toList_inj, hlists,
      hlists] at hread
    refine ⟨hread.1, List.map_injective_iff.mpr ?_ hread.2⟩
    intro s t hst
    exact String.toList_inj.mp hst
  · rintro ⟨hsql, hparams⟩
    rw [keyChars, keyChars, hlists, hlists, hsql, hparams]

end Prepared

/-- **Keys are unambiguous.**  As long as there is no NUL in the SQL texts, two statements give the
digest the same bytes if and only if they have the same text, equally many values, and values
that are shown alike at every place.  And basic values are shown alike if and only if they are
equal, or are whole numbers of any widths that stand for the same number. -/
theorem keys_unambiguous :
    (∀ p q : Prepared, '\x00' ∉ p.sql.toList → '\x00' ∉ q.sql.toList →
      (p.keyBytes = q.keyBytes ↔
        p.sql = q.sql ∧ p.params.length = q.params.length ∧
          ∀ (i : Nat) (hp : i < p.params.length) (hq : i < q.params.length),
            p.params[i].display = q.params[i].display)) ∧
      ∀ v w : Value, v.isBasic → w.isBasic →
        (v.display = w.display ↔ v = w ∨ ∃ n, v.integer? = some n ∧ w.integer? = some n) := by
  refine ⟨fun p q hp hq => ?_, fun v w hv hw => Value.display_eq_display hv hw⟩
  rw [Prepared.keyBytes_inj, Prepared.keyChars_inj hp hq, List.ext_getElem_iff]
  simp only [List.length_map, List.getElem_map]

/-- Without doubling, the one text with an apostrophe on each side of its NUL and the two texts
would be fed to the digest as the same bytes. -/
theorem keys_unambiguous_oneTextForTwo :
    let one : Prepared := ⟨"SELECT ?", [.text "a\x27\x00\x27b"]⟩
    let two : Prepared := ⟨"SELECT ?", [.text "a", .text "b"]⟩
    '\x00' ∉ one.sql.toList ∧ '\x00' ∉ two.sql.toList ∧ one.keyBytes ≠ two.keyBytes ∧
      (Value.smallInt 7).isBasic ∧ (Value.bigInt 7).isBasic ∧ (Value.text "7").isBasic ∧
      (Value.smallInt 7).display = (Value.bigInt 7).display ∧
      (Value.bigInt 7).display ≠ (Value.text "7").display := by
  obtain ⟨hkeys, hshown⟩ := keys_unambiguous
  intro one two
  have hone : '\x00' ∉ one.sql.toList := by decide
  have htwo : '\x00' ∉ two.sql.toList := by decide
  refine ⟨hone, htwo, ?_, rfl, rfl, rfl, ?_, ?_⟩
  · intro h
    obtain ⟨-, hlength, -⟩ := (hkeys one two hone htwo).mp h
    cases hlength
  · exact (hshown (.smallInt 7) (.bigInt 7) rfl rfl).mpr (.inr ⟨7, rfl, rfl⟩)
  · intro h
    rcases (hshown (.bigInt 7) (.text "7") rfl rfl).mp h with heq | ⟨n, -, hn⟩
    · cases heq
    · cases hn

end BoundSql
