import BoundSql.Proofs.Brackets
import BoundSql.Proofs.Capabilities

/-!
# Brackets match in everything that is written

A fragment is *closed* if it does not end inside a quoted run and its brackets match
(`Fragment.Closed`).  Every fragment of a query is put together from texts that are known and from
smaller fragments; if these are closed, what has to be checked of the texts between them is a
finite matter (`Shape.check`).

Main statement: `Node.closed`.  The fragment of everything in a query is closed, as long as the
texts of the caller in it are and the dialect spells its own clauses so (`Dialect.Closes`).
-/

namespace BoundSql

open Lexer (Breaks apart)

/-- The fragment does not end inside a quoted run, and its brackets match. -/
structure Fragment.Closed (f : Fragment) : Prop where
  settled : f.Settled
  balanced : Balanced f.lexemes

/-! ## Checking a fragment by its shape -/

/-- A stretch of a fragment: a text, a fragment, or a fragment that begins apart or is empty. -/
inductive Chunk where
  | text (t : String)
  | part (f : Fragment)
  | clause (f : Fragment)

/-- What is known of a stretch from its kind. -/
inductive Shape where
  | text (t : String)
  | part
  | clause

namespace Chunk

/-- The kind of a stretch. -/
def shape : Chunk → Shape
  | text t => .text t
  | part _ => .part
  | clause _ => .clause

/-- What a stretch consists of. -/
def fragment : Chunk → Fragment
  | text t => [t]
  | part f | clause f => f

/-- What stretches consist of, one behind another. -/
def join (cs : List Chunk) : Fragment := cs.flatMap fragment

/-- A stretch is what its kind says. -/
def Fit : Chunk → Prop
  | text _ => True
  | part f => f.Closed
  | clause f => f.Closed ∧ f.opens

end Chunk

namespace Shape

/-- Go over a text from where the reader stands, and on from there. -/
def checkText (l : Lexer) (opened : List Bracket) (t : String)
    (rest : Lexer → List Bracket → Bool) : Bool :=
  (scan opened (l.emitted (symbolsOf t))).any fun opened' => rest (l.after (symbolsOf t)) opened'

/-- Brackets match, given where the reader stands and which ones are open.  Behind a fragment the
reader stands nowhere in particular: it may be in a word. -/
def check : Option Lexer → List Bracket → List Shape → Bool
  | none, opened, [] => opened.isEmpty
  | some l, opened, [] => l.isSettled && scan opened l.flush == some []
  | some l, opened, .text t :: shapes =>
    checkText l opened t fun l opened => check (some l) opened shapes
  | none, opened, .text t :: shapes =>
    (t.toList.head?.any fun c => !isWordChar c) &&
      checkText apart opened t fun l opened => check (some l) opened shapes
  | some apart, opened, .part :: shapes => check none opened shapes
  | _, _, .part :: _ => false
  | none, opened, .clause :: shapes => check none opened shapes
  | some l, opened, .clause :: shapes =>
    l.isSettled && (scan opened l.flush).any fun opened' => check none opened' shapes

/-- What a check goes by is true of a reader and the brackets that are open. -/
def Stands (l : Lexer) (open' : List Bracket) : Option Lexer → List Bracket → Prop
  | some k, opened => k = l ∧ opened = open'
  | none, opened => l.isSettled ∧ scan open' l.flush = some opened

/-- A reader stands where it stands, with the brackets open that are. -/
theorem stands_self (l : Lexer) (opened : List Bracket) : Stands l opened (some l) opened :=
  ⟨rfl, rfl⟩

/-- The brackets match in what is read on, and the reader ends outside quoted runs. -/
def Closes (l : Lexer) (opened : List Bracket) (ss : List Symbol) : Prop :=
  scan opened (l.read ss) = some [] ∧ (l.after ss).isSettled

variable {l : Lexer} {opened opened' : List Bracket} {ss ts : List Symbol} {f : Fragment}

/-- If a text is read as far as some brackets and the rest closes these, the whole closes. -/
theorem Closes.append (h : scan opened (l.emitted ss) = some opened')
    (hts : Closes (l.after ss) opened' ts) : Closes l opened (ss ++ ts) := by
  refine ⟨?_, ?_⟩
  · rw [Lexer.read_append, scan_append, h]
    exact hts.1
  · rw [Lexer.after_append]
    exact hts.2

/-- In front of what begins apart, the reader may as well stand apart. -/
theorem Closes.of_apart (hl : l.isSettled) (hflush : scan opened l.flush = some opened')
    (hbreaks : Breaks ss) (hne : ss ≠ []) (h : Closes apart opened' ss) : Closes l opened ss := by
  refine ⟨?_, ?_⟩
  · rw [Lexer.read_of_breaks hl hbreaks, scan_append, hflush]
    exact h.1
  · rw [Lexer.after_of_breaks hl hbreaks hne]
    exact h.2

/-- Behind a closed fragment the same brackets are open as before. -/
theorem exists_stands (hf : f.Closed) (opened : List Bracket) :
    ∃ open', scan opened (apart.emitted f.symbols) = some open' ∧
      Stands (apart.after f.symbols) open' none opened := by
  have hscan := hf.balanced.scan_eq opened
  rw [Fragment.lexemes, Lexer.read_eq, scan_append, Option.bind_eq_some_iff] at hscan
  obtain ⟨open', hopen, hflush⟩ := hscan
  exact ⟨open', hopen, hf.settled, hflush⟩

/-- What begins apart begins apart whatever comes behind, unless it is empty. -/
theorem breaks_append_of_breaks (h : Breaks ss) (hne : ss ≠ []) : Breaks (ss ++ ts) := by
  intro c hc
  rw [List.head?_append_of_ne_nil _ hne] at hc
  exact h c hc

/-- What passes the check is closed. -/
theorem closes_of_check {place : Option Lexer} {cs : List Chunk} (hfit : ∀ c ∈ cs, c.Fit)
    (hstands : Stands l opened place opened')
    (hcheck : check place opened' (cs.map Chunk.shape) = true) :
    Closes l opened (Chunk.join cs).symbols := by
  induction cs generalizing l opened place opened' with
  | nil =>
    cases place with
    | none =>
      obtain ⟨hl, hflush⟩ := hstands
      have hnil : opened' = [] := List.isEmpty_iff.mp hcheck
      rw [hnil] at hflush
      exact ⟨hflush, hl⟩
    | some k =>
      obtain ⟨rfl, rfl⟩ := hstands
      have hcheck : (k.isSettled && scan opened' k.flush == some []) = true := hcheck
      rw [Bool.and_eq_true, beq_iff_eq] at hcheck
      exact ⟨hcheck.2, hcheck.1⟩
  | cons c cs ih =>
    rw [List.forall_mem_cons] at hfit
    rw [Chunk.join, List.flatMap_cons, Fragment.symbols_append]
    rw [List.map_cons] at hcheck
    have hpart {f : Fragment} (hf : f.Closed) {opened : List Bracket}
        (h : check none opened (cs.map Chunk.shape) = true) :
        Closes apart opened (f.symbols ++ (Chunk.join cs).symbols) := by
      obtain ⟨open', hopen, hbehind⟩ := exists_stands hf opened
      exact .append hopen (ih hfit.2 hbehind h)
    cases c with
    | text t =>
      have htext {l : Lexer} {opened : List Bracket}
          (h : checkText l opened t (fun l opened => check (some l) opened (cs.map Chunk.shape)) =
            true) :
          Closes l opened (symbolsOf t ++ (Chunk.join cs).symbols) := by
        rw [checkText, Option.any_eq_true] at h
        obtain ⟨open', hopen, hrest⟩ := h
        exact .append hopen (ih hfit.2 (stands_self _ _) hrest)
      have hsymbols : (Chunk.text t).fragment.symbols = symbolsOf t := List.append_nil _
      rw [hsymbols]
      cases place with
      | some k =>
        obtain ⟨rfl, rfl⟩ := hstands
        exact htext hcheck
      | none =>
        obtain ⟨hl, hflush⟩ := hstands
        have hcheck : ((t.toList.head?.any fun c => !isWordChar c) &&
            checkText apart opened' t fun l opened =>
              check (some l) opened (cs.map Chunk.shape)) = true := hcheck
        rw [Bool.and_eq_true] at hcheck
        have hbreaks : Breaks (symbolsOf t) := by
          have h := Fragment.breaks_of_opens (f := [.word (.verbatim t)]) hcheck.1
          rwa [Fragment.symbols_text, Fragment.symbols, List.flatMap_nil, List.append_nil] at h
        have hne : symbolsOf t ≠ [] := by
          intro hnil
          have hempty : t.toList = [] := List.map_eq_nil_iff.mp hnil
          rw [hempty] at hcheck
          exact absurd hcheck.1 (by simp)
        exact .of_apart hl hflush (breaks_append_of_breaks hbreaks hne)
          (List.append_ne_nil_of_left_ne_nil hne _) (htext hcheck.2)
    | part f =>
      cases place with
      | none => cases hcheck
      | some k =>
        obtain ⟨rfl, rfl⟩ := hstands
        cases k with
        | apart => exact hpart hfit.1 hcheck
        | word cs => cases hcheck
        | quoted mark run => cases hcheck
    | clause f =>
      obtain ⟨hf, hopens⟩ := hfit.1
      -- wherever the reader stands, it may as well stand behind a fragment
      have hnone : ∃ open', Stands l opened none open' ∧
          check none open' (cs.map Chunk.shape) = true := by
        cases place with
        | none => exact ⟨opened', hstands, hcheck⟩
        | some k =>
          obtain ⟨rfl, rfl⟩ := hstands
          have hcheck : (k.isSettled && (scan opened' k.flush).any fun opened' =>
              check none opened' (cs.map Chunk.shape)) = true := hcheck
          rw [Bool.and_eq_true, Option.any_eq_true] at hcheck
          obtain ⟨hl, open', hflush, hrest⟩ := hcheck
          exact ⟨open', ⟨hl, hflush⟩, hrest⟩
      obtain ⟨open', hbehind, hrest⟩ := hnone
      show Closes l opened (f.symbols ++ (Chunk.join cs).symbols)
      by_cases hnil : f.symbols = []
      · rw [hnil]
        exact ih hfit.2 hbehind hrest
      · exact .of_apart hbehind.1 hbehind.2
          (breaks_append_of_breaks (Fragment.breaks_of_opens hopens) hnil)
          (List.append_ne_nil_of_left_ne_nil hnil _) (hpart hf hrest)

end Shape

namespace Fragment

variable {f g : Fragment}

/-- **What passes the check is closed.** -/
theorem closed_of_check (cs : List Chunk)
    (hcheck : Shape.check (some apart) [] (cs.map Chunk.shape) = true)
    (hfit : ∀ c ∈ cs, c.Fit) : Closed (Chunk.join cs) := by
  obtain ⟨hbalanced, hsettled⟩ := Shape.closes_of_check hfit (Shape.stands_self _ _) hcheck
  exact ⟨hsettled, hbalanced⟩

/-- The empty fragment is closed. -/
theorem closed_nil : Closed [] := closed_of_check [] rfl nofun

/-- A value is closed: it is one placeholder. -/
theorem closed_bound (v : Value) : Closed [.bound v] := ⟨rfl, rfl⟩

/-- A name is closed: its quotes end where it ends. -/
theorem closed_name (identifier : String) : Closed (name identifier) := ⟨rfl, rfl⟩

/-- A text is closed by itself if the check of its shape says so. -/
theorem closed_text (t : String) (h : Shape.check (some apart) [] [.text t] = true) :
    Closed [.word (.verbatim t)] := closed_of_check [.text t] h (by simp [Chunk.Fit])

/-- A text in one piece is as good as in two. -/
theorem closed_text_append {s t : String}
    (h : Closed (.word (.verbatim s) :: .word (.verbatim t) :: f)) :
    Closed (.word (.verbatim (s ++ t)) :: f) := by
  have hsymbols := symbols_text_append s t f
  obtain ⟨hsettled, hbalanced⟩ := h
  rw [Settled, ← hsymbols] at hsettled
  rw [lexemes, ← hsymbols] at hbalanced
  exact ⟨hsettled, hbalanced⟩

/-- Texts may stand in front of a closed fragment if the check of their shape says so. -/
theorem closed_behind (ts : List String) (hf : f.Closed)
    (hcheck : Shape.check (some apart) [] (ts.map .text ++ [.part]) = true) :
    Closed (ts.map (fun t => .word (.verbatim t)) ++ f) := by
  have hshapes : (ts.map Chunk.text ++ [Chunk.part f]).map Chunk.shape =
      ts.map Shape.text ++ [.part] := by
    rw [List.map_append, List.map_map]
    rfl
  have hfit : ∀ c ∈ ts.map Chunk.text ++ [Chunk.part f], c.Fit := by
    rw [List.forall_mem_append, List.forall_mem_map, List.forall_mem_singleton]
    exact ⟨fun _ _ => trivial, hf⟩
  have hjoin : Chunk.join (ts.map Chunk.text ++ [Chunk.part f]) =
      ts.map (fun t => .word (.verbatim t)) ++ f := by
    rw [Chunk.join, List.flatMap_append, List.flatMap_map, List.flatMap_singleton]
    exact congrArg (· ++ f) (List.flatMap_pure_eq_map _ ts)
  have h := closed_of_check _ (hshapes ▸ hcheck) hfit
  rwa [hjoin] at h

/-- Closed fragments make a closed one if the second begins apart: no word runs into it. -/
theorem Closed.append (hf : f.Closed) (hg : g.Closed) (hopens : g.opens) : Closed (f ++ g) := by
  have h := closed_of_check [.part f, .clause g] rfl (by simp [Chunk.Fit, hf, hg, hopens])
  rwa [Chunk.join, List.flatMap_cons, List.flatMap_cons, List.flatMap_nil, List.append_nil] at h

/-- A closed fragment stays closed in parentheses. -/
theorem Closed.parens (hf : f.Closed) : f.parens.Closed :=
  closed_of_check [.text "(", .part f, .text ")"] rfl (by simp [Chunk.Fit, hf])

/-- Closed fragments in a row are closed if their separator stands well between two of them. -/
theorem closed_sepBy {separator : String} {fs : List Fragment}
    (hcheck : Shape.check (some apart) [] [.part, .text separator, .part] = true)
    (h : ∀ f ∈ fs, f.Closed) : (sepBy separator fs).Closed := by
  induction fs with
  | nil => exact closed_nil
  | cons f fs ih =>
    rw [List.forall_mem_cons] at h
    cases fs with
    | nil => simpa [sepBy] using h.1
    | cons f' fs =>
      have hrest := ih h.2
      have hall := closed_of_check [.part f, .text separator, .part (sepBy separator (f' :: fs))]
        hcheck (by simp [Chunk.Fit, h.1, hrest])
      rw [sepBy] at hall ⊢
      rw [List.intercalate_cons_cons, List.append_assoc]
      simpa [Chunk.join, Chunk.fragment] using hall

/-- A list with commas in it is closed if its entries are. -/
theorem closed_comma {fs : List Fragment} (h : ∀ f ∈ fs, f.Closed) : (comma fs).Closed :=
  closed_sepBy rfl h

/-- A closed fragment that may stand behind any other. -/
structure ClosedClause (f : Fragment) : Prop where
  closed : f.Closed
  opens : f.opens

/-- The empty fragment may stand behind any other. -/
theorem closedClause_nil : ClosedClause [] := ⟨closed_nil, rfl⟩

/-- Clauses one behind another are a clause. -/
theorem closedClause_concat {fs : List Fragment} (h : ∀ f ∈ fs, ClosedClause f) :
    ClosedClause (concat fs) := by
  induction fs with
  | nil => exact closedClause_nil
  | cons f fs ih =>
    rw [List.forall_mem_cons] at h
    obtain ⟨hclosed, hopens⟩ := ih h.2
    exact ⟨h.1.closed.append hclosed hopens, opens_append h.1.opens hopens⟩

/-- A text in front of a closed fragment makes a clause of it, under the same check. -/
theorem closedClause_word {t : String} (hf : f.Closed)
    (hcheck : Shape.check none [] [.text t, .part] = true) :
    ClosedClause (.word (.verbatim t) :: f) := by
  have hopens : (t.toList.head?.any fun c => !isWordChar c) = true := by
    rw [Shape.check, Bool.and_eq_true] at hcheck
    exact hcheck.1
  have hfront : Shape.check (some apart) [] [.text t, .part] = true := by
    rw [Shape.check, Bool.and_eq_true] at hcheck
    exact hcheck.2
  exact ⟨closed_behind [t] hf hfront, hopens⟩

end Fragment

open Fragment (Closed ClosedClause closed_of_check closed_nil closed_bound closed_name closed_text
  closed_text_append closed_behind closed_sepBy closed_comma closedClause_nil closedClause_concat
  closedClause_word)

/-! ## Parts without subqueries -/

/-- What a dialect spells by itself is closed. -/
structure Dialect.Closes (d : Dialect) : Prop where
  now : Closed [.word (.verbatim d.currentTimestamp)]
  limitOffset {limit offset : Option UInt64} {clause : String} :
    d.limitOffset limit offset = some clause → Closed [.word (.verbatim clause)]

/-- A number is one word, and no bracket. -/
theorem closed_number (n : Nat) : Closed [.word (.verbatim (toString n))] := by
  have hdigits : ∀ c ∈ (toString n).toList, c.isDigit :=
    List.all_eq_true.mp (Prepared.all_isDigit_toString n)
  have hsymbols : Fragment.symbols [.word (.verbatim (toString n))] = symbolsOf (toString n) :=
    List.append_nil _
  rw [symbolsOf] at hsymbols
  -- from here on it only matters that the characters are digits
  generalize (toString n).toList = cs at hdigits hsymbols
  cases cs with
  | nil =>
    refine ⟨?_, ?_⟩
    · rw [Fragment.Settled, hsymbols]
      rfl
    · rw [Fragment.lexemes, hsymbols]
      rfl
  | cons c cs =>
    have hmark : Quoting.isMark c = false := by
      have hcalm := Prepared.isCalm_of_isDigit (hdigits c List.mem_cons_self)
      simp only [Prepared.isCalm, Bool.and_eq_true, Bool.not_eq_true'] at hcalm
      exact hcalm.1.1
    have hstep : apart.step (.char c) = ([], .word [c]) := by
      rw [Lexer.step, Lexer.begin, hmark, isWordChar_of_isDigit (hdigits c List.mem_cons_self)]
      rfl
    have hwordChars : ∀ c ∈ cs, isWordChar c := fun c hc =>
      isWordChar_of_isDigit (hdigits c (List.mem_cons_of_mem _ hc))
    obtain ⟨hemitted, hafter⟩ := Lexer.word_of_isWordChar [c] hwordChars
    have hword : Lexeme.ofWord (c :: cs) = .atom (.word (foldWord true (c :: cs))) := by
      -- `CASE` and `END` are the words that open and close, and both have letters
      have hnot (w : String) (hw : w.toList.all Char.isDigit = false) :
          foldWord true (c :: cs) ≠ w := by
        rintro rfl
        rw [foldWord, if_pos rfl, String.toList_ofList, List.map_congr_left fun c hc =>
          Capability.toUpper_of_isDigit (hdigits c hc), List.map_id',
          List.all_eq_true.mpr hdigits] at hw
        cases hw
      rw [Lexeme.ofWord, if_neg (hnot "CASE" (by decide)), if_neg (hnot "END" (by decide))]
    refine ⟨?_, ?_⟩
    · rw [Fragment.Settled, hsymbols, List.map_cons, Lexer.after, List.foldl_cons, hstep]
      rw [Lexer.after] at hafter
      rw [hafter]
      rfl
    · rw [Fragment.lexemes, hsymbols, List.map_cons, Lexer.read, hstep, Lexer.read_eq, hemitted,
        hafter, Lexer.flush, List.singleton_append, hword]
      rfl

section

variable {d : Dialect} {f g : Fragment}

/-- A keyword and a list behind it are closed, and nothing is written for an empty list. -/
theorem closed_listClause {keyword : String} {fs : List Fragment} (h : ∀ f ∈ fs, f.Closed)
    (hcheck : Shape.check (some apart) [] [.text keyword, .part] = true) :
    (listClause keyword fs).Closed := by
  rw [listClause]
  split
  · exact closed_nil
  · exact closed_behind [keyword] (closed_comma h) hcheck

/-- They may stand behind any other fragment if the keyword begins apart. -/
theorem closedClause_listClause {keyword : String} {fs : List Fragment} (h : ∀ f ∈ fs, f.Closed)
    (hcheck : Shape.check none [] [.text keyword, .part] = true) :
    ClosedClause (listClause keyword fs) := by
  rw [listClause]
  split
  · exact closedClause_nil
  · exact closedClause_word (closed_comma h) hcheck

/-- A table with its alias is closed. -/
theorem Table.closed_sourcePhrase (t : Table) : Closed (.ofPhrase t.sourcePhrase) := by
  rw [Table.sourcePhrase]
  split
  · next other _ =>
    exact closed_of_check [.part (.name t.name), .text " AS ", .part (.name other)] rfl
      (by simp [Chunk.Fit, closed_name])
  · exact closed_name t.name

/-- A sort key is closed, its direction and the place of its nulls included. -/
theorem closed_sortKey (hf : f.Closed) (dir : SortDir) (nulls : Option NullsOrder) :
    (sortKey d f dir nulls).Closed := by
  unfold sortKey
  split
  · exact closed_of_check [.part f, .text " ", .text dir.keyword] (by cases dir <;> rfl)
      (by simp [Chunk.Fit, hf])
  · next place =>
    split
    · exact closed_of_check
        [.part f, .text " ", .text dir.keyword, .text " ", .text place.keywords]
        (by cases dir <;> cases place <;> rfl) (by simp [Chunk.Fit, hf])
    · cases place with
      | first =>
        exact closed_of_check [.text "CASE WHEN ", .part f, .text " IS NULL THEN 0 ELSE 1 END, ",
          .part f, .text " ", .text dir.keyword] (by cases dir <;> rfl) (by simp [Chunk.Fit, hf])
      | last =>
        exact closed_of_check [.text "CASE WHEN ", .part f, .text " IS NULL THEN 1 ELSE 0 END, ",
          .part f, .text " ", .text dir.keyword] (by cases dir <;> rfl) (by simp [Chunk.Fit, hf])

/-- A comparison with a pattern is closed, however the dialect spells it without regard to case. -/
theorem closed_likeFragment (hf : f.Closed) (hg : g.Closed) (negated caseless : Bool) :
    (likeFragment d f g negated caseless).Closed := by
  rw [likeFragment]
  split
  · exact closed_of_check [.text "LOWER(", .part f, .text ") ", .text (notIf negated),
      .text "LIKE LOWER(", .part g, .text ")"] (by cases negated <;> rfl)
      (by simp [Chunk.Fit, hf, hg])
  · cases caseless with
    | false =>
      exact closed_of_check [.part f, .text " ", .text (notIf negated), .text "LIKE ", .part g]
        (by cases negated <;> rfl) (by simp [Chunk.Fit, hf, hg])
    | true =>
      exact closed_of_check [.part f, .text " ", .text (notIf negated), .text "ILIKE ", .part g]
        (by cases negated <;> rfl) (by simp [Chunk.Fit, hf, hg])

/-- A bound of a frame is closed: it is words, and perhaps a number. -/
theorem FrameBound.closed_text (b : FrameBound) : Closed [.word (.verbatim b.text)] := by
  have hcounted (n : Nat) (t : String)
      (hcheck : Shape.check (some apart) [] [.part, .text t] = true) :
      Closed [.word (.verbatim (toString n ++ t))] := by
    have hn := closed_number n
    exact closed_text_append (closed_of_check [.part [.word (.verbatim (toString n))], .text t]
      hcheck (by simpa [Chunk.Fit] using hn))
  cases b with
  | preceding n => exact hcounted n.toNat " PRECEDING" rfl
  | following n => exact hcounted n.toNat " FOLLOWING" rfl
  | unboundedPreceding => exact Fragment.closed_text _ rfl
  | currentRow => exact Fragment.closed_text _ rfl
  | unboundedFollowing => exact Fragment.closed_text _ rfl

/-- So is a frame, which is at most two bounds and the words around them. -/
theorem Frame.closed_text (frame : Frame) : Closed [.word (.verbatim (frame.text d))] := by
  have hunit : Closed [.word (.verbatim (Frame.unit d frame.kind))] := by
    cases frame.kind with
    | rows => exact Fragment.closed_text "ROWS" rfl
    | range => exact Fragment.closed_text "RANGE" rfl
    | groups =>
      rw [Frame.unit]
      split
      · exact Fragment.closed_text "GROUPS" rfl
      · exact Fragment.closed_text "ROWS" rfl
  have hstart := frame.start.closed_text
  rw [Frame.text_eq]
  cases frame.stop with
  | none =>
    rw [Option.elim_none, ← String.append_assoc]
    refine closed_text_append (closed_text_append ?_)
    exact closed_of_check [.part [.word (.verbatim (Frame.unit d frame.kind))], .text " ",
      .part [.word (.verbatim frame.start.text)]] rfl (by simp [Chunk.Fit, hunit, hstart])
  | some stop =>
    have hstop := stop.closed_text
    simp only [Option.elim_some, ← String.append_assoc]
    refine closed_text_append (closed_text_append (closed_text_append (closed_text_append ?_)))
    exact closed_of_check [.part [.word (.verbatim (Frame.unit d frame.kind))],
      .text " BETWEEN ", .part [.word (.verbatim frame.start.text)], .text " AND ",
      .part [.word (.verbatim stop.text)]] rfl (by simp [Chunk.Fit, hunit, hstart, hstop])

/-- What stands in the parentheses of a window is closed if its keys are. -/
theorem closed_windowParts {partitionKeys order : List Fragment}
    (hp : ∀ f ∈ partitionKeys, f.Closed) (ho : ∀ f ∈ order, f.Closed) (frame : Option Frame) :
    (windowParts d partitionKeys order frame).Closed := by
  rw [windowParts]
  refine closed_sepBy rfl fun f hf => ?_
  rcases List.mem_append.mp hf with hf | hf
  · have hmem := (List.mem_filter.mp hf).1
    rcases List.mem_cons.mp hmem with rfl | hmem
    · exact closed_listClause hp rfl
    · rw [List.mem_singleton.mp hmem]
      exact closed_listClause ho rfl
  · obtain ⟨frame, _, rfl⟩ := List.mem_map.mp hf
    exact frame.closed_text

/-- Operands joined by a word are closed if each of them is. -/
theorem Operand.closed_join {word empty : String} {os : List Operand}
    (h : ∀ o ∈ os, o.fragment.Closed)
    (hword : Shape.check (some apart) [] [.part, .text word, .part] = true)
    (hempty : Shape.check (some apart) [] [.text empty] = true) :
    (Operand.join word empty os).Closed := by
  match os with
  | [] => exact closed_text empty hempty
  | [o] => exact h o (by simp)
  | o :: o' :: os =>
    refine closed_sepBy hword fun f hf => ?_
    obtain ⟨o, hmem, rfl⟩ := List.mem_map.mp hf
    rw [Operand.grouped]
    split
    · exact (h o hmem).parens
    · exact h o hmem

/-- An operand is closed if its expression is, in parentheses of its own or not. -/
theorem Expr.closed_operand (e : Expr) (h : f.Closed) : (e.operand f).Closed := by
  rw [Expr.operand]
  split
  · exact h.parens
  · exact h

end

/-! ### What the dialects spell -/

/-- The clause that cuts out a page consists of words and numbers. -/
theorem Standard.closed_limitOffset {unlimited clause : String} {limit offset : Option UInt64}
    (hunlimited : Shape.check (some apart) [] [.text unlimited, .text "OFFSET ", .part] = true)
    (h : Standard.limitOffset unlimited limit offset = some clause) :
    Closed [.word (.verbatim clause)] := by
  have hnumber (n : UInt64) := closed_number n.toNat
  cases limit with
  | none =>
    cases offset with
    | none => cases h
    | some o =>
      cases h
      refine closed_text_append (closed_text_append ?_)
      exact closed_of_check [.text unlimited, .text "OFFSET ",
        .part [.word (.verbatim (toString o.toNat))]] hunlimited
        (by simpa [Chunk.Fit] using hnumber o)
  | some l =>
    cases offset with
    | none =>
      cases h
      exact closed_text_append (closed_of_check [.text "LIMIT ",
        .part [.word (.verbatim (toString l.toNat))]] rfl (by simpa [Chunk.Fit] using hnumber l))
    | some o =>
      cases h
      refine closed_text_append (closed_text_append (closed_text_append ?_))
      exact closed_of_check [.text "LIMIT ", .part [.word (.verbatim (toString l.toNat))],
        .text " OFFSET ", .part [.word (.verbatim (toString o.toNat))]] rfl
        (by simpa [Chunk.Fit] using ⟨hnumber l, hnumber o⟩)

/-- The four dialects spell closed clauses. -/
theorem DialectKind.closes (k : DialectKind) : k.dialect.Closes where
  now := by cases k <;> exact closed_text "CURRENT_TIMESTAMP" rfl
  limitOffset h := by cases k <;> exact Standard.closed_limitOffset rfl h

/-! ## One node

A node is closed if its parts are. -/

section

variable {d : Dialect}

/-- Expressions in a row are closed if they are as nodes. -/
theorem closed_fragments {es : List Expr} (h : ∀ k ∈ es.map Node.expr, (k.fragment d).Closed) :
    ∀ f ∈ Expr.fragments d es, f.Closed := by
  rw [Expr.fragments_eq, List.forall_mem_map]
  exact h

/-- Sort keys are closed if they are as nodes. -/
theorem closed_orderFragments {os : List OrderItem}
    (h : ∀ k ∈ os.map Node.orderItem, (k.fragment d).Closed) :
    ∀ f ∈ OrderItem.fragments d os, f.Closed := by
  rw [OrderItem.fragments_eq, List.forall_mem_map]
  exact h

/-- A clause with a condition is closed if the condition is, and empty without one. -/
theorem closedClause_clause {keyword : String} {p : Option Predicate}
    (h : ∀ k ∈ p.toList.map Node.predicate, (k.fragment d).Closed)
    (hcheck : Shape.check none [] [.text keyword, .part] = true) :
    ClosedClause (Predicate.clause d keyword p) := by
  cases p with
  | none => exact closedClause_nil
  | some p => exact closedClause_word (h (.predicate p) (by simp)) hcheck

/-- Conditions joined by a word are closed if each of them is. -/
theorem closed_join {word empty : String} {ps : List Predicate}
    (h : ∀ k ∈ ps.map Node.predicate, (k.fragment d).Closed)
    (hword : Shape.check (some apart) [] [.part, .text word, .part] = true)
    (hempty : Shape.check (some apart) [] [.text empty] = true) :
    (Operand.join word empty (Predicate.operands d ps)).Closed := by
  refine Operand.closed_join (fun o ho => ?_) hword hempty
  have hmem : o.fragment ∈ (Predicate.operands d ps).map Operand.fragment :=
    List.mem_map_of_mem ho
  rw [Predicate.operands_eq] at hmem
  obtain ⟨k, hk, heq⟩ := List.mem_map.mp hmem
  rw [← heq]
  exact h k hk

/-- The branches of a `CASE` are clauses, and so is what stands behind `ELSE`. -/
theorem Expr.closed_caseParts {branches : List Branch} {otherwise : Option Expr}
    (h : ∀ k ∈ (Expr.case branches otherwise).parts, (k.fragment d).Closed) :
    ClosedClause (.concat (Branch.fragments d branches)) ∧
      ClosedClause (Expr.elseFragment d otherwise) := by
  rw [Expr.parts, List.forall_mem_append] at h
  refine ⟨closedClause_concat fun f hf => ?_, ?_⟩
  · rw [Branch.fragments_eq] at hf
    obtain ⟨k, hk, rfl⟩ := List.mem_map.mp hf
    obtain ⟨b, _, rfl⟩ := List.mem_map.mp hk
    refine ⟨h.1 _ hk, ?_⟩
    cases b with
    | mk condition value => rfl
  · cases otherwise with
    | none => exact closedClause_nil
    | some e => exact closedClause_word (h.2 (.expr e) (by simp)) rfl

variable (hd : d.Closes)

include hd

/-- An expression is closed if its parts are and the caller's text in it is. -/
theorem Expr.closed_of_parts {e : Expr}
    (hown : (Node.expr e).Admitted (fun t => Closed [.word (.verbatim t)]) Closed)
    (h : ∀ k ∈ e.parts, (k.fragment d).Closed) : (e.fragment d).Closed := by
  cases e with
  | column c =>
    exact closed_of_check [.part (.name c.table), .text ".", .part (.name c.name)] rfl
      (by simp [Chunk.Fit, closed_name])
  | literal v => exact closed_bound v
  | raw t => exact hown
  | star => exact closed_text "*" rfl
  | call function args distinct =>
    have hlist := closed_comma (closed_fragments h)
    have hfunction : Closed [.word (.verbatim function)] := hown
    rw [Expr.fragment]
    cases distinct with
    | false =>
      exact closed_of_check [.part [.word (.verbatim function)], .text "(", .text "",
        .part (.comma (Expr.fragments d args)), .text ")"] rfl
        (by simp [Chunk.Fit, hlist, hfunction])
    | true =>
      exact closed_of_check [.part [.word (.verbatim function)], .text "(", .text "DISTINCT ",
        .part (.comma (Expr.fragments d args)), .text ")"] rfl
        (by simp [Chunk.Fit, hlist, hfunction])
  | binary left op right =>
    have hl : (left.operand (left.fragment d)).Closed :=
      left.closed_operand (h (.expr left) (by simp [Expr.parts]))
    have hr : (right.operand (right.fragment d)).Closed :=
      right.closed_operand (h (.expr right) (by simp [Expr.parts]))
    rw [Expr.fragment]
    exact closed_of_check [.part (left.operand (left.fragment d)), .text " ", .text op.sign,
      .text " ", .part (right.operand (right.fragment d))] (by cases op <;> rfl)
      (by simp [Chunk.Fit, hl, hr])
  | aliased e name =>
    have he : (e.fragment d).Closed := h (.expr e) (by simp [Expr.parts])
    rw [Expr.fragment]
    exact closed_of_check [.part (e.fragment d), .text " AS ", .part (.name name)] rfl
      (by simp [Chunk.Fit, closed_name, he])
  | case branches otherwise =>
    obtain ⟨⟨hbranches, hbopens⟩, helse, heopens⟩ := Expr.closed_caseParts h
    rw [Expr.fragment]
    exact closed_of_check [.text "CASE", .clause (.concat (Branch.fragments d branches)),
      .clause (Expr.elseFragment d otherwise), .text " END"] rfl
      (by simp [Chunk.Fit, hbranches, hbopens, helse, heopens])
  | coalesce args =>
    have hlist := closed_comma (closed_fragments h)
    rw [Expr.fragment]
    exact closed_of_check [.text "COALESCE(", .part (.comma (Expr.fragments d args)), .text ")"] rfl
      (by simp [Chunk.Fit, hlist])
  | subquery q => exact (h (.select q) (by simp [Expr.parts])).parens
  | window function w =>
    have hfunction : (function.fragment d).Closed := h (.expr function) (by simp [Expr.parts])
    have hw : (w.fragment d).Closed := h (.window w) (by simp [Expr.parts])
    rw [Expr.fragment]
    exact closed_of_check [.part (function.fragment d), .text " OVER ",
      .part (w.fragment d).parens] rfl (by simp [Chunk.Fit, hfunction, hw.parens])
  | now => exact hd.now
  | truth p => exact (h (.predicate p) (by simp [Expr.parts])).parens

omit hd in

/-- A condition is closed under the same terms. -/
theorem Predicate.closed_of_parts {p : Predicate}
    (hown : (Node.predicate p).Admitted (fun t => Closed [.word (.verbatim t)]) Closed)
    (h : ∀ k ∈ p.parts, (k.fragment d).Closed) : (p.fragment d).Closed := by
  cases p with
  | compare left op right =>
    have hleft : (left.fragment d).Closed := h (.expr left) (by simp [Predicate.parts])
    have hright : (right.fragment d).Closed := h (.expr right) (by simp [Predicate.parts])
    rw [Predicate.fragment]
    exact closed_of_check [.part (left.fragment d), .text " ", .text op.sign, .text " ",
      .part (right.fragment d)] (by cases op <;> rfl) (by simp [Chunk.Fit, hleft, hright])
  | isNull e negated =>
    have he : (e.fragment d).Closed := h (.expr e) (by simp [Predicate.parts])
    rw [Predicate.fragment]
    cases negated with
    | false => exact he.append (closed_text " IS NULL" rfl) rfl
    | true => exact he.append (closed_text " IS NOT NULL" rfl) rfl
  | inList e values negated =>
    rw [Predicate.parts, List.forall_mem_cons] at h
    have he : (e.fragment d).Closed := h.1
    have hlist := closed_comma (closed_fragments h.2)
    rw [Predicate.fragment]
    split
    · cases negated with
      | false => exact closed_text "1 = 0" rfl
      | true => exact closed_text "1 = 1" rfl
    · exact closed_of_check [.part (e.fragment d), .text " ", .text (notIf negated), .text "IN (",
        .part (.comma (Expr.fragments d values)), .text ")"] (by cases negated <;> rfl)
        (by simp [Chunk.Fit, he, hlist])
  | inQuery e q negated =>
    have he : (e.fragment d).Closed := h (.expr e) (by simp [Predicate.parts])
    have hq : (q.fragment d).Closed := h (.select q) (by simp [Predicate.parts])
    rw [Predicate.fragment]
    exact closed_of_check [.part (e.fragment d), .text " ", .text (notIf negated), .text "IN ",
      .part (q.fragment d).parens] (by cases negated <;> rfl) (by simp [Chunk.Fit, he, hq.parens])
  | between e low high negated =>
    have he : (e.fragment d).Closed := h (.expr e) (by simp [Predicate.parts])
    have hlow : (low.fragment d).Closed := h (.expr low) (by simp [Predicate.parts])
    have hhigh : (high.fragment d).Closed := h (.expr high) (by simp [Predicate.parts])
    rw [Predicate.fragment]
    exact closed_of_check [.part (e.fragment d), .text " ", .text (notIf negated),
      .text "BETWEEN ", .part (low.fragment d), .text " AND ", .part (high.fragment d)]
      (by cases negated <;> rfl) (by simp [Chunk.Fit, he, hlow, hhigh])
  | like e pattern negated caseless =>
    have he : (e.fragment d).Closed := h (.expr e) (by simp [Predicate.parts])
    have hpattern : (pattern.fragment d).Closed := h (.expr pattern) (by simp [Predicate.parts])
    rw [Predicate.fragment]
    exact closed_likeFragment he hpattern negated caseless
  | conj ps =>
    rw [Predicate.fragment]
    exact closed_join h rfl rfl
  | disj ps =>
    rw [Predicate.fragment]
    exact closed_join h rfl rfl
  | neg p =>
    have hp : (p.fragment d).Closed := h (.predicate p) (by simp [Predicate.parts])
    rw [Predicate.fragment]
    exact closed_behind ["NOT "] hp.parens rfl
  | existence q negated =>
    have hq : (q.fragment d).Closed := h (.select q) (by simp [Predicate.parts])
    rw [Predicate.fragment]
    exact closed_of_check [.text (notIf negated), .text "EXISTS ", .part (q.fragment d).parens]
      (by cases negated <;> rfl) (by simp [Chunk.Fit, hq.parens])
  | quantified left op quantifier q =>
    have hleft : (left.fragment d).Closed := h (.expr left) (by simp [Predicate.parts])
    have hq : (q.fragment d).Closed := h (.select q) (by simp [Predicate.parts])
    rw [Predicate.fragment]
    exact closed_of_check [.part (left.fragment d), .text " ", .text op.sign, .text " ",
      .text quantifier.keyword, .text " ", .part (q.fragment d).parens]
      (by cases op <;> cases quantifier <;> rfl) (by simp [Chunk.Fit, hleft, hq.parens])
  | raw t => exact hown
  | always => exact closed_text "1 = 1" rfl
  | never => exact closed_text "1 = 0" rfl

/-- A query is closed if its parts are: no clause of it opens what it does not close. -/
theorem Select.closed_of_parts {q : Select} (h : ∀ k ∈ q.parts, (k.fragment d).Closed) :
    (q.fragment d).Closed := by
  cases q with
  | mk distinct projection source joins condition groups having order limit offset forUpdate =>
    simp only [Select.parts, List.forall_mem_append] at h
    obtain ⟨⟨⟨⟨⟨⟨hprojection, hgroups⟩, hsource⟩, hjoins⟩, hcondition⟩, hhaving⟩, horder⟩ := h
    have hcolumns : Closed
        (if projection.isEmpty then ["*"] else .comma (Expr.fragments d projection)) := by
      split
      · exact closed_text "*" rfl
      · exact closed_comma (closed_fragments hprojection)
    have hfrom : ClosedClause (Source.clause d source) := by
      cases source with
      | none => exact closedClause_nil
      | some s => exact closedClause_word (hsource (.source s) (by simp)) rfl
    have hjoined : ClosedClause (.concat (Join.fragments d joins)) := by
      refine closedClause_concat fun f hf => ?_
      rw [Join.fragments_eq] at hf
      obtain ⟨k, hk, rfl⟩ := List.mem_map.mp hf
      obtain ⟨j, _, rfl⟩ := List.mem_map.mp hk
      refine ⟨hjoins _ hk, ?_⟩
      cases j with
      | mk kind target on => rfl
    have hlimits : ClosedClause
        ((d.limitOffset limit offset).elim [] fun clause => [" ", clause]) := by
      cases hclause : d.limitOffset limit offset with
      | none => exact closedClause_nil
      | some clause => exact closedClause_word (hd.limitOffset hclause) rfl
    have hlock : ClosedClause (if forUpdate then [" FOR UPDATE"] else []) := by
      split
      · exact ⟨closed_text " FOR UPDATE" rfl, rfl⟩
      · exact closedClause_nil
    have hclauses : ClosedClause (.concat [
        Source.clause d source,
        .concat (Join.fragments d joins),
        Predicate.clause d " WHERE " condition,
        listClause " GROUP BY " (Expr.fragments d groups),
        Predicate.clause d " HAVING " having,
        listClause " ORDER BY " (OrderItem.fragments d order),
        (d.limitOffset limit offset).elim [] fun clause => [" ", clause],
        if forUpdate then [" FOR UPDATE"] else []]) := by
      refine closedClause_concat ?_
      simp only [List.forall_mem_cons, List.not_mem_nil, false_implies, implies_true, and_true]
      exact ⟨hfrom, hjoined, closedClause_clause hcondition rfl,
        closedClause_listClause (closed_fragments hgroups) rfl, closedClause_clause hhaving rfl,
        closedClause_listClause (closed_orderFragments horder) rfl, hlimits, hlock⟩
    have hbody := hcolumns.append hclauses.closed hclauses.opens
    rw [Select.fragment]
    cases distinct with
    | false => exact closed_behind ["SELECT ", ""] hbody rfl
    | true => exact closed_behind ["SELECT ", "DISTINCT "] hbody rfl

/-- A node is closed if its parts are. -/
theorem Node.closed_of_parts (n : Node)
    (hown : n.Admitted (fun t => Closed [.word (.verbatim t)]) Closed)
    (h : ∀ k ∈ n.parts, (k.fragment d).Closed) : (n.fragment d).Closed := by
  cases n with
  | expr e => exact Expr.closed_of_parts hd hown h
  | predicate p => exact Predicate.closed_of_parts hown h
  | branch b =>
    cases b with
    | mk condition value =>
      have hcondition : (condition.fragment d).Closed :=
        h (.predicate condition) (by simp [Node.parts])
      have hvalue : (value.fragment d).Closed := h (.expr value) (by simp [Node.parts])
      rw [Node.fragment, Branch.fragment]
      exact closed_of_check [.text " WHEN ", .part (condition.fragment d), .text " THEN ",
        .part (value.fragment d)] rfl (by simp [Chunk.Fit, hcondition, hvalue])
  | orderItem o =>
    cases o with
    | mk key dir nulls =>
      rw [Node.fragment, OrderItem.fragment]
      exact closed_sortKey (h (.expr key) (by simp [Node.parts])) dir nulls
  | window w =>
    cases w with
    | mk partitionKeys order frame =>
      rw [Node.parts, List.forall_mem_append] at h
      rw [Node.fragment, Window.fragment]
      exact closed_windowParts (closed_fragments h.1) (closed_orderFragments h.2) frame
  | source s =>
    cases s with
    | table t => exact t.closed_sourcePhrase
    | query q name =>
      have hq : (q.fragment d).Closed := h (.select q) (by simp [Node.parts])
      rw [Node.fragment, Source.fragment]
      exact closed_of_check [.part (q.fragment d).parens, .text " AS ", .part (.name name)] rfl
        (by simp [Chunk.Fit, hq.parens, closed_name])
  | join j =>
    cases j with
    | mk kind target on =>
      rw [Node.parts, List.forall_mem_cons] at h
      have htarget : (target.fragment d).Closed := h.1
      have hclause : ClosedClause (Predicate.clause d " ON " on) := closedClause_clause h.2 rfl
      rw [Node.fragment, Join.fragment]
      exact closed_of_check [.text " ", .text kind.keywords, .text " ", .part (target.fragment d),
        .clause (Predicate.clause d " ON " on)] (by cases kind <;> rfl)
        (by simp [Chunk.Fit, htarget, hclause.closed, hclause.opens])
  | select q => exact Select.closed_of_parts hd h

/-- **Brackets match in everything that is written**, as long as they do in what the caller
wrote. -/
theorem Node.closed (n : Node) (h : ∀ x ∈ n.callerTexts,
    x.Admitted (fun t => Closed [.word (.verbatim t)]) Closed) : (n.fragment d).Closed := by
  -- but for the texts of the caller, a node only brings the lock of a query
  have hown := admitted_of_callerTexts h fun _ _ _ => closed_text " FOR UPDATE" rfl
  refine n.closed_of_parts hd hown fun k hk => ?_
  have := Node.sizeOf_lt_of_mem_parts hk
  exact Node.closed k fun x hx => h x (flatMap_parts n (List.mem_flatMap.mpr ⟨k, hk, hx⟩))
termination_by sizeOf n

end

end BoundSql
