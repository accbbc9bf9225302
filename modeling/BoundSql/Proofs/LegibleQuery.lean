import BoundSql.Proofs.Legible
import BoundSql.Proofs.SpacedStatement

/-!
# Statements are legible

Whatever is spaced and made of calm texts is legible in a legible dialect
(`Fragment.Spaced.legible`): what does not begin inside a word does not begin with a digit.  So
every statement is legible, as long as the texts that the caller wrote into it are neat
(`Statement.legible`).
-/

namespace BoundSql

open Fragment (Legible SetOff Spaced legible_nil legible_ofPhrase setOff_nil setOff_word)
open Prepared (isCalmText)

/-- All of the texts are neat. -/
def AllNeat (texts : List CallerText) : Prop := ∀ x ∈ texts, x.Neat

/-- Texts are neat if the first one is and the rest are. -/
theorem allNeat_cons {x : CallerText} {xs : List CallerText} :
    AllNeat (x :: xs) ↔ x.Neat ∧ AllNeat xs := List.forall_mem_cons

/-! ## Legible dialects speak in calm texts -/

/-- The bounds of a frame are calm. -/
theorem isCalmText_frameBound (b : FrameBound) : isCalmText b.text := by
  cases b with
  | unboundedPreceding => decide
  | preceding n =>
    rw [FrameBound.text, Prepared.isCalmText_append, Prepared.isCalmText_toString]
    decide
  | currentRow => decide
  | following n =>
    rw [FrameBound.text, Prepared.isCalmText_append, Prepared.isCalmText_toString]
    decide
  | unboundedFollowing => decide

/-- A frame is calm, in whatever units it counts. -/
theorem isCalmText_frame (d : Dialect) (frame : Frame) : isCalmText (frame.text d) := by
  have hk : isCalmText "ROWS" ∧ isCalmText "RANGE" ∧ isCalmText "GROUPS" := by decide
  have hs : isCalmText " " ∧ isCalmText " BETWEEN " ∧ isCalmText " AND " := by decide
  unfold Frame.text
  split <;> split <;> try split
  all_goals simp only [Prepared.isCalmText_append, isCalmText_frameBound, hk, hs, Bool.and_self]

/-- A dialect that is legible spells everything by itself in calm words. -/
theorem Dialect.Legible.speaks {d : Dialect} (hd : d.Legible) : d.Speaks (isCalmText ·) where
  plain := isCalmText_of_isPlainText
  now := hd.now
  limitOffset := hd.limitOffset
  frame := isCalmText_frame d
  iLike _ := by decide
  nulls place _ := by cases place <;> decide

/-! ## Spaced fragments of calm texts are legible -/

namespace Fragment

variable {d : Dialect} {f : Fragment}

/-- What begins apart begins with no digit, so it sets itself off. -/
theorem setOff_of_opens (h : f.opens) : SetOff d f := by
  cases f with
  | nil => exact setOff_nil
  | cons p f =>
    cases p with
    | word w =>
      cases w with
      | verbatim t =>
        refine setOff_word ?_
        rw [opens, Option.any_eq_true] at h
        obtain ⟨c, hc, hword⟩ := h
        rw [Word.opens, Option.any_eq_true]
        refine ⟨c, hc, ?_⟩
        rw [Bool.not_eq_true'] at hword ⊢
        by_cases hdigit : c.isDigit
        · rw [isWordChar_of_isDigit hdigit] at hword
          cases hword
        · exact Bool.eq_false_iff.mpr hdigit
      | name identifier => cases h
    | bound v => cases h

/-- A spaced fragment is legible if its texts are calm and what is taken whole is legible. -/
theorem Spaced.legible (hd : d.Legible) (h : Spaced (isCalmText ·) (Legible d) f) :
    Legible d f := by
  induction h with
  | nil => exact legible_nil
  | bound v => exact legible_bound hd v
  | taken hf => exact hf
  | name identifier _ _ ih => exact ih.word hd rfl
  | text ht _ _ ih => exact ih.word hd ht
  | append _ _ hopens ihf ihg => exact ihf.append ihg (setOff_of_opens hopens)

end Fragment

/-! ## Statements -/

section

variable {d : Dialect} (hd : d.Legible)

include hd

/-- A neat text of the caller is calm or legible. -/
theorem CallerText.Neat.admitted {x : CallerText} (h : x.Neat) :
    x.Admitted (isCalmText ·) (Legible d) := by
  cases x with
  | template t => exact t.legible_fragment hd h
  | function name => exact h

/-- Whatever a legible dialect writes into the clauses of a statement is calm. -/
theorem clausesAdmitted_of_legible (conflict : Option Conflict) (returning : List ColumnRef) :
    ClausesAdmitted d (isCalmText ·) (Legible d) conflict returning where
  upsert _ target columns action := .taken (legible_ofPhrase hd (hd.upsert target columns action))
  returning _ := by decide

/-- A node is spaced if the caller's texts in it are neat. -/
theorem Node.spaced_of_allNeat {n : Node} (h : AllNeat n.callerTexts) :
    Spaced (isCalmText ·) (Legible d) (n.fragment d) :=
  Node.spaced_of_callerTexts hd.speaks (fun x hx => (h x hx).admitted hd) fun _ _ _ => by decide

/-- A statement is legible if the caller's texts in it are neat. -/
theorem Statement.legible (s : Statement) (h : AllNeat s.callerTexts) :
    Legible d (s.fragment d) := by
  rw [Statement.callerTexts_eq, AllNeat, List.forall_mem_flatMap] at h
  have hnodes := fun n hn => Node.spaced_of_allNeat hd (h n hn)
  exact (s.spaced hd.speaks hnodes (clausesAdmitted_of_legible hd _ _)).legible hd

end

end BoundSql
