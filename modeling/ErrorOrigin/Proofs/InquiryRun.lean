import ErrorOrigin.Registry.Inquiry
import Mathlib.Tactic

/-!
# Runs of inquiries

A run adds to the past queries those that the inquiry makes, one after the other.  A registry that
breaks down over some transforms runs an inquiry like the registry itself up to the first of them.
-/

namespace ErrorOrigin

variable {α : Type}

def Registry.asked (r : Registry) : Inquiry α → (past : List Query) → List Query
  | .done _, _ => []
  | .ask q next, past =>
      q :: match r.answer past q with
        | none => []
        | some answer => r.asked (next answer) (past ++ [q])

theorem Registry.run_snd (r : Registry) (i : Inquiry α) (past : List Query) :
    (r.run i past).2 = past ++ r.asked i past := by
  induction i generalizing past with
  | done a => simp [Registry.run, Registry.asked]
  | ask q next ih =>
      rw [Registry.run, Registry.asked]
      cases r.answer past q with
      | none => rfl
      | some answer => simpa using ih answer (past ++ [q])

/-- Whether a registry that breaks down over transforms of these keys does so over the query. -/
def Query.isBreaking (breaks : String → Bool) : Query → Bool
  | .transform key => breaks key
  | _ => false

/-- The queries up to and including the first one that breaks the registry. -/
def Query.untilBreak (breaks : String → Bool) (queries : List Query) : List Query :=
  queries.take (queries.findIdx (isBreaking breaks) + 1)

theorem Query.findIdx_of_none {breaks : String → Bool} {queries : List Query}
    (hnone : queries.any (isBreaking breaks) = false) :
    queries.findIdx (isBreaking breaks) = queries.length := by
  rw [List.findIdx_eq_length]
  intro q hq
  simpa using List.any_eq_false.mp hnone q hq

theorem Query.untilBreak_of_none {breaks : String → Bool} {queries : List Query}
    (hnone : queries.any (isBreaking breaks) = false) : untilBreak breaks queries = queries := by
  rw [untilBreak, findIdx_of_none hnone]
  exact List.take_of_length_le (by omega)

theorem Query.untilBreak_append_of_any {breaks : String → Bool} {queries : List Query}
    (rest : List Query) (hany : queries.any (isBreaking breaks) = true) :
    untilBreak breaks (queries ++ rest) = untilBreak breaks queries := by
  have hlt : queries.findIdx (isBreaking breaks) < queries.length := by
    rw [List.findIdx_lt_length]
    simpa using hany
  rw [untilBreak, untilBreak, List.findIdx_append, if_pos hlt,
    List.take_append_of_le_length (by omega)]

theorem Query.untilBreak_append_of_none {breaks : String → Bool} {queries : List Query}
    (rest : List Query) (hnone : queries.any (isBreaking breaks) = false) :
    untilBreak breaks (queries ++ rest) = queries ++ untilBreak breaks rest := by
  rw [untilBreak, untilBreak, List.findIdx_append, findIdx_of_none hnone, if_neg (by omega)]
  rw [List.take_append, List.take_of_length_le (by omega)]
  congr 2
  omega

theorem Registry.breakingTransforms_answer (r : Registry) (breaks : String → Bool)
    (past : List Query) (q : Query) :
    (r.breakingTransforms breaks).answer past q =
      if q.isBreaking breaks then none else r.answer past q := by
  cases q <;> rfl

/-- The run that breaks down is the other run, cut off behind the first breaking query. -/
theorem Registry.run_breakingTransforms (r : Registry) (breaks : String → Bool)
    (i : Inquiry α) (past : List Query) :
    (r.breakingTransforms breaks).run i past =
      (if (r.asked i past).any (Query.isBreaking breaks) then none else (r.run i past).1,
        past ++ Query.untilBreak breaks (r.asked i past)) := by
  induction i generalizing past with
  | done a => simp [Registry.run, Registry.asked, Query.untilBreak]
  | ask q next ih =>
      rw [Registry.run, Registry.run, Registry.asked, Registry.breakingTransforms_answer]
      by_cases hbreak : q.isBreaking breaks = true
      · have hfirst : [q].any (Query.isBreaking breaks) = true := by
          simpa using hbreak
        have hcut := Query.untilBreak_append_of_any
          (match r.answer past q with
            | none => []
            | some answer => r.asked (next answer) (past ++ [q])) hfirst
        rw [List.singleton_append] at hcut
        rw [if_pos hbreak, hcut]
        simp [hbreak, Query.untilBreak]
      · have hfirst : [q].any (Query.isBreaking breaks) = false := by
          simpa using hbreak
        rw [if_neg hbreak]
        cases r.answer past q with
        | none =>
            simp [Query.untilBreak_of_none hfirst]
        | some answer =>
            have hcut := Query.untilBreak_append_of_none
              (r.asked (next answer) (past ++ [q])) hfirst
            rw [List.singleton_append] at hcut
            simp only [ih, hcut]
            simp [hbreak]

theorem Registry.run_breakingTransforms_of_any {r : Registry} {breaks : String → Bool}
    {i : Inquiry α} {past : List Query}
    (hany : (r.asked i past).any (Query.isBreaking breaks) = true) :
    (r.breakingTransforms breaks).run i past =
      (none, past ++ Query.untilBreak breaks (r.asked i past)) := by
  rw [r.run_breakingTransforms, if_pos hany]

theorem Registry.run_breakingTransforms_of_none {r : Registry} {breaks : String → Bool}
    {i : Inquiry α} {past : List Query}
    (hnone : (r.asked i past).any (Query.isBreaking breaks) = false) :
    (r.breakingTransforms breaks).run i past = r.run i past := by
  rw [r.run_breakingTransforms, Query.untilBreak_of_none hnone, ← r.run_snd, hnone]
  rfl

end ErrorOrigin
