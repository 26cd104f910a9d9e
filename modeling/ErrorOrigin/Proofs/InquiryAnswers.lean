import ErrorOrigin.Proofs.InquiryRun
import Mathlib.Tactic

/-!
# Registries that keep answering

A registry that never breaks down brings every inquiry to a result.  If moreover its answers do not
depend on what was asked before, that result is the value of the inquiry under a table of answers,
and the value of a composed inquiry is composed of the values of its parts.
-/

namespace ErrorOrigin

variable {α β : Type}

theorem Registry.run_bind (r : Registry) (i : Inquiry α) (f : α → Inquiry β)
    (past : List Query) :
    r.run (i >>= f) past =
      match r.run i past with
      | (none, past) => (none, past)
      | (some a, past) => r.run (f a) past := by
  induction i generalizing past with
  | done a => rfl
  | ask q next ih =>
      have hbind : Inquiry.ask q next >>= f = .ask q fun answer => next answer >>= f := rfl
      rw [hbind, Registry.run, Registry.run]
      cases r.answer past q with
      | none => rfl
      | some answer => exact ih answer (past ++ [q])

theorem Registry.run_bind_of_run {r : Registry} {i : Inquiry α} {past later : List Query} {a : α}
    (hrun : r.run i past = (some a, later)) (f : α → Inquiry β) :
    r.run (i >>= f) past = r.run (f a) later := by
  rw [Registry.run_bind, hrun]

theorem Registry.run_query_of_answer {r : Registry} {past : List Query} {q : Query}
    {answer : q.Answer} (hanswer : r.answer past q = some answer) :
    r.run (Inquiry.query q) past = (some answer, past ++ [q]) := by
  rw [Inquiry.query, Registry.run, hanswer]
  rfl

theorem Registry.run_bind_eq_some_iff {r : Registry} {i : Inquiry α} {f : α → Inquiry β}
    {past later : List Query} {b : β} :
    r.run (i >>= f) past = (some b, later) ↔
      ∃ a between, r.run i past = (some a, between) ∧ r.run (f a) between = (some b, later) := by
  rw [Registry.run_bind]
  cases hrun : r.run i past with
  | mk result between => cases result <;> simp

theorem Registry.asked_bind (r : Registry) (i : Inquiry α) (f : α → Inquiry β)
    (past : List Query) :
    r.asked (i >>= f) past =
      r.asked i past ++
        (r.run i past).1.elim [] fun a => r.asked (f a) (past ++ r.asked i past) := by
  have hqueries := congrArg Prod.snd (r.run_bind i f past)
  have hfirst := r.run_snd i past
  rw [r.run_snd] at hqueries
  cases hrun : r.run i past with
  | mk result between =>
      rw [hrun] at hqueries hfirst
      obtain rfl : between = past ++ r.asked i past := hfirst
      cases result with
      | none => simpa using hqueries
      | some a =>
          simp only [r.run_snd, List.append_assoc, List.append_cancel_left_eq] at hqueries
          exact hqueries

/-- Whatever is asked after these queries, the registry does not break down. -/
def Registry.AnswersAfter (r : Registry) (past : List Query) : Prop :=
  ∀ later q, (r.answer (past ++ later) q).isSome = true

theorem Registry.AnswersAfter.append {r : Registry} {past : List Query}
    (hr : r.AnswersAfter past) (later : List Query) : r.AnswersAfter (past ++ later) := by
  intro further q
  rw [List.append_assoc]
  exact hr (later ++ further) q

theorem Registry.AnswersAfter.exists_run {r : Registry} {past : List Query}
    (hr : r.AnswersAfter past) (i : Inquiry α) :
    ∃ a later, r.run i past = (some a, past ++ later) := by
  induction i generalizing past with
  | done a => exact ⟨a, [], by rw [Registry.run, List.append_nil]⟩
  | ask q next ih =>
      obtain ⟨answer, hanswer⟩ := Option.isSome_iff_exists.mp (hr [] q)
      rw [List.append_nil] at hanswer
      obtain ⟨a, later, hrun⟩ := ih answer (hr.append [q])
      refine ⟨a, q :: later, ?_⟩
      rw [Registry.run, hanswer]
      simpa using hrun

/-! ## Fixed answers -/

/-- The registry gives these answers, whatever was asked before. -/
def Registry.Answers (r : Registry) (answer : (q : Query) → q.Answer) : Prop :=
  ∀ past q, r.answer past q = some (answer q)

/-- The result of an inquiry under fixed answers. -/
def Inquiry.value (answer : (q : Query) → q.Answer) : Inquiry α → α
  | .done a => a
  | .ask q next => (next (answer q)).value answer

namespace Inquiry

variable (answer : (q : Query) → q.Answer)

@[simp] theorem value_pure (a : α) : (Pure.pure a : Inquiry α).value answer = a := rfl

@[simp] theorem value_query (q : Query) : (query q).value answer = answer q := rfl

@[simp] theorem value_bind (i : Inquiry α) (f : α → Inquiry β) :
    (i >>= f).value answer = (f (i.value answer)).value answer := by
  induction i with
  | done a => rfl
  | ask q next ih => exact ih (answer q)

end Inquiry

section Answers

variable {r : Registry} {answer : (q : Query) → q.Answer}

theorem Registry.Answers.run_fst (hr : r.Answers answer) (i : Inquiry α) (past : List Query) :
    (r.run i past).1 = some (i.value answer) := by
  induction i generalizing past with
  | done a => rfl
  | ask q next ih =>
      rw [Registry.run, hr past q]
      exact ih (answer q) (past ++ [q])

theorem Registry.Answers.value_eq (hr : r.Answers answer) {i : Inquiry α} {past : List Query}
    {a : α} (hrun : (r.run i past).1 = some a) : i.value answer = a := by
  rw [hr.run_fst] at hrun
  exact Option.some.inj hrun

theorem Registry.Answers.answersAfter (hr : r.Answers answer) (past : List Query) :
    r.AnswersAfter past := by
  intro later q
  rw [hr]
  rfl

end Answers

/-- What is known of these modules, and of no file. -/
def ServedModule.answer (modules : List ServedModule) : (q : Query) → q.Answer
  | .byId key => .ok (modules.find? (·.id = some key))
  | .byUrl key => .ok (modules.find? (·.url = key))
  | .modules => modules
  | .transform key => .ok ((modules.find? (·.transformKey? = some key)).bind (·.transform))
  | .read path => .error (.read path "no such file")

def Registry.ofModules (modules : List ServedModule) : Registry where
  root := ""
  answer _ q := some (ServedModule.answer modules q)

theorem Registry.ofModules_answers (modules : List ServedModule) :
    (Registry.ofModules modules).Answers (ServedModule.answer modules) :=
  fun _ _ => rfl

end ErrorOrigin
