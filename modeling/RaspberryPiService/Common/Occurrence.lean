import Mathlib.Data.List.Infix

/-!
# Occurrences of a pattern

A pattern may occur in a text more than once, and its occurrences may overlap. This file
defines what follows the first and the last of them, as string searches from either end
find them, and says when an occurrence that is known is the one that is found.
-/

namespace Occurrence

universe u

variable {Symbol : Type u} [DecidableEq Symbol]

/-- What follows the first occurrence of the pattern. -/
def afterFirst (pattern : List Symbol) : List Symbol → Option (List Symbol)
  | [] => if pattern = [] then some [] else none
  | first :: rest =>
      if pattern <+: first :: rest then some ((first :: rest).drop pattern.length)
      else afterFirst pattern rest

/-- What follows the last occurrence of the pattern. -/
def afterLast (pattern : List Symbol) : List Symbol → Option (List Symbol)
  | [] => if pattern = [] then some [] else none
  | first :: rest =>
      match afterLast pattern rest with
      | some found => some found
      | none =>
          if pattern <+: first :: rest then some ((first :: rest).drop pattern.length) else none

variable {pattern front rest text : List Symbol}

theorem afterLast_eq_none_iff : afterLast pattern text = none ↔ ¬ pattern <:+: text := by
  induction text with
  | nil => simp [afterLast]
  | cons first text ih =>
      rw [List.infix_cons_iff, not_or, ← ih, afterLast]
      cases afterLast pattern text with
      | some found => simp
      | none => simp

theorem afterFirst_isSome_iff : (afterFirst pattern text).isSome ↔ pattern <:+: text := by
  induction text with
  | nil =>
      rw [afterFirst, List.infix_nil]
      split <;> simp_all
  | cons first text ih =>
      rw [List.infix_cons_iff, ← ih, afterFirst]
      split
      · next atFront => simp [atFront]
      · next differs => simp [differs]

omit [DecidableEq Symbol] in
theorem ne_nil_of_not_occurring (absent : ¬ pattern <:+: text) : pattern ≠ [] := by
  rintro rfl
  exact absent List.nil_infix

/-- The first occurrence is the one before which none is complete. -/
theorem afterFirst_append (absent : ¬ pattern <:+: (front ++ pattern).dropLast) :
    afterFirst pattern (front ++ (pattern ++ rest)) = some rest := by
  have nonempty := ne_nil_of_not_occurring absent
  induction front with
  | nil =>
      rcases List.exists_cons_of_ne_nil nonempty with ⟨symbol, symbols, rfl⟩
      simp [afterFirst]
  | cons first front ih =>
      have shorter : ((first :: front) ++ pattern).dropLast =
          first :: (front ++ pattern).dropLast :=
        List.dropLast_cons_of_ne_nil (by simp [nonempty])
      rw [shorter] at absent
      have later : ¬ pattern <+: first :: (front ++ (pattern ++ rest)) := by
        intro occurs
        have earlier : first :: (front ++ pattern).dropLast <+:
            first :: (front ++ (pattern ++ rest)) := by
          rw [List.cons_prefix_cons, ← List.append_assoc]
          exact ⟨rfl, (List.dropLast_prefix _).trans (List.prefix_append _ _)⟩
        have fits : pattern.length ≤ (first :: (front ++ pattern).dropLast).length := by
          simp only [List.length_cons, List.length_dropLast, List.length_append]
          omega
        exact absent (List.prefix_of_prefix_length_le occurs earlier fits).isInfix
      rw [List.cons_append, afterFirst, if_neg later]
      exact ih fun occurs => absent (List.infix_cons occurs)

/-- The last occurrence is the one after whose start none begins. -/
theorem afterLast_append (absent : ¬ pattern <:+: (pattern ++ rest).tail) :
    afterLast pattern (front ++ (pattern ++ rest)) = some rest := by
  rcases List.exists_cons_of_ne_nil (ne_nil_of_not_occurring absent) with ⟨symbol, symbols, rfl⟩
  induction front with
  | nil =>
      have nothing : afterLast (symbol :: symbols) (symbols ++ rest) = none :=
        afterLast_eq_none_iff.mpr absent
      simp [afterLast, nothing]
  | cons first front ih =>
      rw [List.cons_append, afterLast, ih]

omit [DecidableEq Symbol] in
/-- A pattern without a separator occurs on one side of it. -/
theorem infix_append_cons_iff {separator : Symbol} (free : separator ∉ pattern) :
    pattern <:+: front ++ separator :: rest ↔ pattern <:+: front ∨ pattern <:+: rest := by
  constructor
  · intro occurs
    rcases List.infix_append_iff.mp occurs with inFront | after | ⟨left, right, rfl, ends, starts⟩
    · exact Or.inl inFront
    · rcases List.infix_cons_iff.mp after with starts | inRest
      · rcases pattern with - | ⟨symbol, symbols⟩
        · exact Or.inl List.nil_infix
        · rw [List.cons_prefix_cons] at starts
          simp [starts.1] at free
      · exact Or.inr inRest
    · rcases right with - | ⟨symbol, symbols⟩
      · rw [List.append_nil]
        exact Or.inl ends.isInfix
      · rw [List.cons_prefix_cons] at starts
        simp [starts.1] at free
  · rintro (inFront | inRest)
    · exact List.infix_append_of_infix_left inFront
    · exact List.infix_append_of_infix_right (List.infix_cons inRest)

end Occurrence
