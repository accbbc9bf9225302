import BoundSql.Proofs.Lexing

/-!
# Lexemes in brackets

Brackets group what stands between them.  A reader who knows which brackets are open finds the
terms of a row of lexemes, atoms and groups of terms (`Term.read`): every row of terms is found
again (`Term.read_flattenAll`), and where the brackets match there are terms to be found
(`Term.exists_of_balanced`).  So a row of lexemes whose brackets match consists of terms in exactly
one way.
-/

namespace BoundSql

/-! ## Terms -/

/-- An atom, or terms between brackets. -/
inductive Term where
  | atom (a : Atom)
  | group (b : Bracket) (ts : List Term)

mutual

/-- The lexemes of a term. -/
def Term.flatten : Term → List Lexeme
  | .atom a => [.atom a]
  | .group b ts => .opening b :: (Term.flattenAll ts ++ [.closing b])

/-- The lexemes of terms. -/
def Term.flattenAll : List Term → List Lexeme
  | [] => []
  | t :: ts => t.flatten ++ Term.flattenAll ts

end

namespace Term

/-- Two rows of terms have their lexemes one behind the other. -/
theorem flattenAll_append (ts us : List Term) :
    flattenAll (ts ++ us) = flattenAll ts ++ flattenAll us := by
  induction ts with
  | nil => rfl
  | cons t ts ih => rw [List.cons_append, flattenAll, ih, flattenAll, List.append_assoc]

/-- A term at the end has its lexemes at the end. -/
theorem flattenAll_concat (ts : List Term) (t : Term) :
    flattenAll (ts ++ [t]) = flattenAll ts ++ t.flatten := by
  rw [flattenAll_append, flattenAll, flattenAll, List.append_nil]

/-- Find the terms, given what stands in front of each bracket that is open, the innermost first,
and the terms behind the last of these. -/
def readFrom : List (Bracket × List Term) → List Term → List Lexeme → Option (List Term)
  | [], ts, [] => some ts
  | _ :: _, _, [] => none
  | outer, ts, .atom a :: xs => readFrom outer (ts ++ [.atom a]) xs
  | outer, ts, .opening b :: xs => readFrom ((b, ts) :: outer) [] xs
  | [], _, .closing _ :: _ => none
  | (b', us) :: outer, ts, .closing b :: xs =>
    if b = b' then readFrom outer (us ++ [.group b ts]) xs else none

/-- An atom is one more term where it stands. -/
@[simp] theorem readFrom_atom (outer : List (Bracket × List Term)) (ts : List Term) (a : Atom)
    (xs : List Lexeme) :
    readFrom outer ts (.atom a :: xs) = readFrom outer (ts ++ [.atom a]) xs := by
  cases outer <;> rfl

/-- Behind an opening bracket, the terms that are there wait for it to close. -/
@[simp] theorem readFrom_opening (outer : List (Bracket × List Term)) (ts : List Term)
    (b : Bracket) (xs : List Lexeme) :
    readFrom outer ts (.opening b :: xs) = readFrom ((b, ts) :: outer) [] xs := by
  cases outer <;> rfl

/-- Find the terms. -/
def read (xs : List Lexeme) : Option (List Term) := readFrom [] [] xs

mutual

/-- The lexemes of a term are read as that term, whatever is behind them. -/
theorem readFrom_flatten (t : Term) (outer : List (Bracket × List Term)) (us : List Term)
    (xs : List Lexeme) :
    readFrom outer us (t.flatten ++ xs) = readFrom outer (us ++ [t]) xs := by
  match t with
  | .atom a => exact readFrom_atom outer us a xs
  | .group b ts =>
    rw [flatten, List.cons_append, List.append_assoc, readFrom_opening, readFrom_flattenAll ts,
      List.nil_append, List.singleton_append, readFrom, if_pos rfl]

/-- The lexemes of terms are read as those terms. -/
theorem readFrom_flattenAll (ts : List Term) (outer : List (Bracket × List Term)) (us : List Term)
    (xs : List Lexeme) :
    readFrom outer us (flattenAll ts ++ xs) = readFrom outer (us ++ ts) xs := by
  match ts with
  | [] => rw [flattenAll, List.nil_append, List.append_nil]
  | t :: ts =>
    rw [flattenAll, List.append_assoc, readFrom_flatten t, readFrom_flattenAll ts,
      List.append_assoc]
    rfl

end

/-- Terms are found again. -/
theorem read_flattenAll (ts : List Term) : read (flattenAll ts) = some ts := by
  have h := readFrom_flattenAll ts [] [] []
  rwa [List.append_nil] at h

/-- Lexemes are those of one row of terms at most. -/
theorem flattenAll_inj {ts us : List Term} (h : flattenAll ts = flattenAll us) : ts = us := by
  have hread := read_flattenAll ts
  rw [h, read_flattenAll] at hread
  exact (Option.some.inj hread).symm

end Term

/-! ## Matching brackets -/

/-- The brackets that are open in the end, the innermost first, if each one that closes is of the
kind of the last one open. -/
def scan : List Bracket → List Lexeme → Option (List Bracket)
  | opened, [] => some opened
  | opened, .atom _ :: xs => scan opened xs
  | opened, .opening b :: xs => scan (b :: opened) xs
  | [], .closing _ :: _ => none
  | b' :: opened, .closing b :: xs => if b = b' then scan opened xs else none

/-- An atom opens and closes nothing. -/
@[simp] theorem scan_atom (opened : List Bracket) (a : Atom) (xs : List Lexeme) :
    scan opened (.atom a :: xs) = scan opened xs := by
  cases opened <;> rfl

/-- An opening bracket becomes the innermost of those open. -/
@[simp] theorem scan_opening (opened : List Bracket) (b : Bracket) (xs : List Lexeme) :
    scan opened (.opening b :: xs) = scan (b :: opened) xs := by
  cases opened <;> rfl

/-- At the end, what is open stays open. -/
@[simp] theorem scan_nil (opened : List Bracket) : scan opened [] = some opened := by
  cases opened <;> rfl

/-- Each bracket is closed by one of its kind, in the right order. -/
def Balanced (xs : List Lexeme) : Prop := scan [] xs = some []

/-- A text in two parts leaves open what the second part leaves of the first. -/
theorem scan_append (opened : List Bracket) (xs ys : List Lexeme) :
    scan opened (xs ++ ys) = (scan opened xs).bind fun opened' => scan opened' ys := by
  induction xs generalizing opened with
  | nil => rw [List.nil_append, scan_nil, Option.bind_some]
  | cons x xs ih =>
    cases x with
    | atom a => rw [List.cons_append, scan_atom, scan_atom, ih]
    | opening b => rw [List.cons_append, scan_opening, scan_opening, ih]
    | closing b =>
      cases opened with
      | nil => rfl
      | cons b' opened =>
        rw [List.cons_append, scan, scan]
        split
        · exact ih _
        · rfl

/-- Brackets that are open further out make no difference. -/
theorem scan_under {inner opened : List Bracket} {xs : List Lexeme}
    (h : scan inner xs = some opened) (outer : List Bracket) :
    scan (inner ++ outer) xs = some (opened ++ outer) := by
  induction xs generalizing inner with
  | nil =>
    rw [scan_nil] at h
    cases h
    exact scan_nil _
  | cons x xs ih =>
    cases x with
    | atom a =>
      rw [scan_atom] at h ⊢
      exact ih h
    | opening b =>
      rw [scan_opening] at h ⊢
      exact ih h
    | closing b =>
      -- without `outer` the scan fails at a bracket that `inner` did not open
      cases inner with
      | nil => cases h
      | cons b' inner =>
        rw [scan] at h
        rw [List.cons_append, scan]
        split at h
        · next hb =>
          rw [if_pos hb]
          exact ih h
        · cases h

/-- Where brackets match, all that was open before stays open. -/
theorem Balanced.scan_eq {xs : List Lexeme} (h : Balanced xs) (opened : List Bracket) :
    scan opened xs = some opened := scan_under h opened

namespace Term

/-- The lexemes in front, given what the reader remembers. -/
def unwind : List (Bracket × List Term) → List Term → List Lexeme
  | [], ts => flattenAll ts
  | (b, us) :: outer, ts => unwind outer us ++ .opening b :: flattenAll ts

/-- A term read last is the last of the lexemes in front. -/
theorem unwind_concat (outer : List (Bracket × List Term)) (ts : List Term) (t : Term) :
    unwind outer (ts ++ [t]) = unwind outer ts ++ t.flatten := by
  cases outer with
  | nil => exact flattenAll_concat ts t
  | cons o outer =>
    rw [unwind, unwind, flattenAll_concat, List.append_assoc]
    rfl

/-- What is found has the lexemes that were read. -/
theorem flattenAll_of_readFrom {outer : List (Bracket × List Term)} {us ts : List Term}
    {xs : List Lexeme} (h : readFrom outer us xs = some ts) :
    flattenAll ts = unwind outer us ++ xs := by
  -- what is read moves over to what the reader remembers, which `unwind` gives back
  induction xs generalizing outer us with
  | nil =>
    cases outer with
    | nil =>
      cases h
      exact (List.append_nil _).symm
    | cons o outer => cases h
  | cons x xs ih =>
    cases x with
    | atom a =>
      rw [readFrom_atom] at h
      rw [ih h, unwind_concat, List.append_assoc]
      rfl
    | opening b =>
      rw [readFrom_opening] at h
      rw [ih h, unwind, List.append_assoc]
      rfl
    | closing b =>
      cases outer with
      | nil => cases h
      | cons o outer =>
        obtain ⟨b', vs⟩ := o
        rw [readFrom] at h
        split at h
        · next hb =>
          subst hb
          rw [ih h, unwind_concat, flatten, unwind]
          simp
        · cases h

/-- Where the brackets match, something is found. -/
theorem exists_readFrom {outer : List (Bracket × List Term)} {us : List Term} {xs : List Lexeme}
    (h : scan (outer.map Prod.fst) xs = some []) : ∃ ts, readFrom outer us xs = some ts := by
  induction xs generalizing outer us with
  | nil =>
    cases outer with
    | nil => exact ⟨us, rfl⟩
    | cons o outer => cases h
  | cons x xs ih =>
    cases x with
    | atom a =>
      rw [scan_atom] at h
      rw [readFrom_atom]
      exact ih h
    | opening b =>
      rw [scan_opening] at h
      rw [readFrom_opening]
      exact ih h
    | closing b =>
      cases outer with
      | nil => cases h
      | cons o outer =>
        obtain ⟨b', vs⟩ := o
        rw [List.map_cons, scan] at h
        rw [readFrom]
        split at h
        · next hb =>
          rw [if_pos hb]
          exact ih h
        · cases h

/-- Where the brackets match, there are terms. -/
theorem exists_of_balanced {xs : List Lexeme} (h : Balanced xs) : ∃ ts, flattenAll ts = xs := by
  obtain ⟨ts, hts⟩ : ∃ ts, readFrom [] [] xs = some ts := exists_readFrom h
  exact ⟨ts, flattenAll_of_readFrom hts⟩

end Term

end BoundSql
