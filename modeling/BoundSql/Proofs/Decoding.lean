import BoundSql.Proofs.Markers
import Mathlib.Data.List.Basic
import Mathlib.Logic.Function.Basic

/-!
# What can be read off a row of letters

Texts are written one part behind another, with nothing that says where a part ends.  A part can be
read off all the same if it is known what may follow it: `Decodes write follows` says that whoever
meets `write x` in front of something that follows knows `x` and where the rest begins.

Parts that can be read off make wholes that can: one behind another (`Decodes.append`), behind a
fixed text (`Decodes.prepend`), there or not (`decodes_flag`), of two kinds (`Decodes.sum`), or any
number of them with separators (`Decodes.separated`).  What has to be looked at each time is where
two parts meet, that is, what follows.
-/

namespace BoundSql

variable {α β γ : Type}

/-- From what is written, and something that follows, can be told what was written and what
follows it. -/
def Decodes (write : α → List β) (follows : List β → Prop) : Prop :=
  ∀ ⦃x y : α⦄ ⦃r s : List β⦄, follows r → follows s → write x ++ r = write y ++ s → x = y ∧ r = s

variable {write : α → List β} {write' : γ → List β} {follows follows' : List β → Prop}

/-- If nothing may follow, different things are written differently. -/
theorem Decodes.injective (h : Decodes write follows) (hnil : follows []) :
    Function.Injective write := by
  intro x y heq
  exact (h hnil hnil (congrArg (· ++ []) heq)).1

/-- It is enough that what is written for one thing never goes on as what is written for
another. -/
theorem decodes_of_prefix
    (h : ∀ ⦃x y m s⦄, write y = write x ++ m → follows (m ++ s) → x = y) :
    Decodes write follows := by
  intro x y r s hr hs heq
  have hxy : x = y := by
    rcases List.append_eq_append_iff.mp heq with ⟨m, hm, rfl⟩ | ⟨m, hm, rfl⟩
    · exact h hm hr
    · exact (h hm hs).symm
  subst hxy
  exact ⟨rfl, List.append_cancel_left heq⟩

/-! ## Wholes made of parts -/

/-- What can be read off can be read off behind a fixed text. -/
theorem Decodes.prepend (h : Decodes write follows) (front : List β) :
    Decodes (fun x => front ++ write x) follows := by
  intro x y r s hr hs heq
  rw [List.append_assoc, List.append_assoc, List.append_cancel_left_eq] at heq
  exact h hr hs heq

/-- It can be read off in front of a fixed text, if that text may follow. -/
theorem Decodes.concat (h : Decodes write follows) (back : List β)
    (hback : ∀ r, follows' r → follows (back ++ r)) :
    Decodes (fun x => write x ++ back) follows' := by
  intro x y r s hr hs heq
  rw [List.append_assoc, List.append_assoc] at heq
  obtain ⟨rfl, hrest⟩ := h (hback r hr) (hback s hs) heq
  exact ⟨rfl, List.append_cancel_left hrest⟩

/-- Two things written one behind the other can be read off, if the second may follow the first. -/
theorem Decodes.append (h : Decodes write follows) (h' : Decodes write' follows')
    (hjoin : ∀ z r, follows' r → follows (write' z ++ r)) :
    Decodes (fun p : α × γ => write p.1 ++ write' p.2) follows' := by
  rintro ⟨x, z⟩ ⟨y, w⟩ r s hr hs heq
  rw [List.append_assoc, List.append_assoc] at heq
  obtain ⟨rfl, hrest⟩ := h (hjoin z r hr) (hjoin w s hs) heq
  obtain ⟨rfl, hrs⟩ := h' hr hs hrest
  exact ⟨rfl, hrs⟩

/-- What can be told from something else that can be read off. -/
theorem Decodes.comap (h : Decodes write follows) {f : γ → α} (hf : Function.Injective f) :
    Decodes (fun z => write (f z)) follows := by
  intro z w r s hr hs heq
  obtain ⟨hfz, hrs⟩ := h hr hs heq
  exact ⟨hf hfz, hrs⟩

/-- Of two kinds, no member of the one written as something of the other begins. -/
theorem Decodes.sum (h : Decodes write follows) (h' : Decodes write' follows)
    (hne : ∀ x z r s, write x ++ r ≠ write' z ++ s) :
    Decodes (Sum.elim write write') follows := by
  rintro (x | z) (y | w) r s hr hs heq
  · obtain ⟨rfl, hrs⟩ := h hr hs heq
    exact ⟨rfl, hrs⟩
  · exact absurd heq (hne x w r s)
  · exact absurd heq.symm (hne y z s r)
  · obtain ⟨rfl, hrs⟩ := h' hr hs heq
    exact ⟨rfl, hrs⟩

/-- There, or not there: nothing that follows begins in the same way. -/
theorem decodes_flag {text : List β} (h : ∀ r, ¬ follows (text ++ r)) :
    Decodes (fun present : Bool => if present then text else []) follows := by
  refine decodes_of_prefix fun x y m s heq hs => ?_
  cases x <;> cases y
  · rfl
  · have hm : m = text := heq.symm
    exact absurd (hm ▸ hs) (h s)
  · have hnil : text = [] := (List.append_eq_nil_iff.mp heq.symm).1
    exact absurd (hnil ▸ hs : follows (text ++ (m ++ s))) (h _)
  · rfl

/-- A list, if nothing is written for the empty one and nothing that follows begins as what is
written for another. -/
theorem decodes_of_cons {write : List α → List β} (hnil : write [] = [])
    (hcons : ∀ x xs r, ¬ follows (write (x :: xs) ++ r))
    (h : ∀ ⦃x xs y ys r s⦄, follows r → follows s →
      write (x :: xs) ++ r = write (y :: ys) ++ s → x :: xs = y :: ys ∧ r = s) :
    Decodes write follows := by
  intro xs ys r s hr hs heq
  cases xs with
  | nil =>
    rw [hnil, List.nil_append] at heq
    cases ys with
    | nil =>
      rw [hnil, List.nil_append] at heq
      exact ⟨rfl, heq⟩
    | cons y ys => exact absurd (heq ▸ hr) (hcons y ys s)
  | cons x xs =>
    cases ys with
    | nil =>
      rw [hnil, List.nil_append] at heq
      exact absurd (heq.symm ▸ hs) (hcons x xs r)
    | cons y ys => exact h hr hs heq

/-- Any number of them in a row can be read off, if one may follow another and nothing that follows
the row begins as one of them. -/
theorem Decodes.flatMap (h : Decodes write follows)
    (hitem : ∀ x r, follows (write x ++ r)) (hfollows : ∀ r, follows' r → follows r)
    (hend : ∀ x r, ¬ follows' (write x ++ r)) :
    Decodes (fun xs : List α => xs.flatMap write) follows' := by
  intro xs ys r s hr hs heq
  dsimp only at heq
  -- behind an item stands another one or the end, and both may follow it
  have hbehind (xs : List α) {r : List β} (hr : follows' r) : follows (xs.flatMap write ++ r) := by
    cases xs with
    | nil => exact hfollows r hr
    | cons x xs =>
      rw [List.flatMap_cons, List.append_assoc]
      exact hitem x _
  induction xs generalizing ys with
  | nil =>
    cases ys with
    | nil => exact ⟨rfl, heq⟩
    | cons y ys =>
      rw [List.flatMap_nil, List.nil_append, List.flatMap_cons, List.append_assoc] at heq
      exact absurd (heq ▸ hr) (hend y _)
  | cons x xs ih =>
    cases ys with
    | nil =>
      rw [List.flatMap_nil, List.nil_append, List.flatMap_cons, List.append_assoc] at heq
      exact absurd (heq ▸ hs) (hend x _)
    | cons y ys =>
      rw [List.flatMap_cons, List.flatMap_cons, List.append_assoc, List.append_assoc] at heq
      obtain ⟨rfl, hrest⟩ := h (hbehind xs hr) (hbehind ys hs) heq
      obtain ⟨rfl, hrs⟩ := ih hrest
      exact ⟨rfl, hrs⟩

/-- A list with separators and one more separator in front. -/
theorem append_intercalate (separator : List β) (write : α → List β) {xs : List α} (h : xs ≠ []) :
    separator ++ List.intercalate separator (xs.map write) =
      xs.flatMap fun x => separator ++ write x := by
  induction xs with
  | nil => exact absurd rfl h
  | cons x xs ih =>
    -- `List.intercalate` tells one item from more, so the induction does as well
    cases xs with
    | nil => simp
    | cons y ys =>
      rw [List.flatMap_cons, ← ih (List.cons_ne_nil y ys)]
      simp only [List.map_cons, List.intercalate_cons_cons, List.append_assoc]

/-- Any number of them with separators.  Nothing that follows the list begins as a separator, or as
an item does. -/
theorem Decodes.separated (h : Decodes write follows) {separator : List β}
    (hseparator : ∀ r, follows (separator ++ r)) (hfollows : ∀ r, follows' r → follows r)
    (hend : ∀ r, ¬ follows' (separator ++ r)) (hnone : ∀ x r, ¬ follows' (write x ++ r)) :
    Decodes (fun xs : List α => List.intercalate separator (xs.map write)) follows' := by
  have hrow : Decodes (fun xs : List α => xs.flatMap fun x => separator ++ write x) follows' := by
    refine (h.prepend separator).flatMap (fun x r => ?_) hfollows fun x r => ?_
    · rw [List.append_assoc]
      exact hseparator _
    · rw [List.append_assoc]
      exact hend _
  have hempty (x : α) (xs : List α) (r : List β) :
      ¬ follows' (List.intercalate separator ((x :: xs).map write) ++ r) := by
    cases xs with
    | nil =>
      rw [List.map_singleton, List.intercalate_singleton]
      exact hnone x r
    | cons y ys =>
      rw [List.map_cons, List.map_cons, List.intercalate_cons_cons, List.append_assoc,
        List.append_assoc]
      exact hnone x _
  refine decodes_of_cons rfl hempty fun x xs y ys r s hr hs heq => ?_
  have hmore := congrArg (separator ++ ·) heq
  simp only [← List.append_assoc, append_intercalate _ _ (List.cons_ne_nil _ _)] at hmore
  exact hrow hr hs hmore

/-! ## Numbers -/

/-- Numbers are read off wherever no digit follows, in whatever letters the digits are written. -/
theorem decodes_number {letter : Char → β} (hletter : Function.Injective letter)
    (h : ∀ c r, c.isDigit → ¬ follows (letter c :: r)) :
    Decodes (fun n : Nat => (toString n).toList.map letter) follows := by
  refine decodes_of_prefix fun x y m s heq hs => ?_
  have hm : m = [] := by
    rcases m with _ | ⟨b, m⟩
    · rfl
    · have hmem : b ∈ (toString y).toList.map letter := by
        rw [heq]
        exact List.mem_append_right _ List.mem_cons_self
      obtain ⟨c, hc, rfl⟩ := List.mem_map.mp hmem
      have hdigit := List.all_eq_true.mp (Prepared.all_isDigit_toString y) c hc
      exact absurd hs (h c _ hdigit)
  rw [hm, List.append_nil] at heq
  have hdigits : (toString y).toList = (toString x).toList := List.map_injective_iff.mpr hletter heq
  rw [← Prepared.ofDigitChars_toString x, ← hdigits, Prepared.ofDigitChars_toString]

end BoundSql
