import DesignHistory.Session

/-!
# Runs of a session

A property of sessions that every step keeps holds after any list of steps.  Some
properties are kept only by steps that are taken under a condition, which may
depend on the session that a step finds; `Session.Along` says that the condition
was met all the way.

## Main definitions

* `Session.after`: the session that a list of steps leads to from the start.
* `Session.Along`: a condition on every step of a run and the session it finds.

## Main statements

* `Session.run_induction`: what every step keeps, a run keeps.
* `Session.outcome_ask`, `Session.answer_ask`: what becomes of a question.
-/

namespace DesignHistory

/-- A place in a history that has become longer by one is the last one, or it was there
before. -/
theorem snoc_eq_append_cons_iff {α : Type} {history first later : List α} {a b : α} :
    history ++ [b] = first ++ a :: later ↔
      (later = [] ∧ a = b ∧ first = history)
        ∨ ∃ earlier, later = earlier ++ [b] ∧ history = first ++ a :: earlier := by
  constructor
  · intro h
    rcases List.eq_nil_or_concat later with rfl | ⟨earlier, last, rfl⟩
    · obtain ⟨rfl, hlast⟩ := List.append_inj' h rfl
      exact .inl ⟨rfl, (List.head_eq_of_cons_eq hlast).symm, rfl⟩
    · rw [List.concat_eq_append] at h ⊢
      rw [← List.cons_append, ← List.append_assoc] at h
      obtain ⟨rfl, hlast⟩ := List.append_inj' h rfl
      obtain rfl := List.head_eq_of_cons_eq hlast
      exact .inr ⟨earlier, rfl, rfl⟩
  · rintro (⟨rfl, rfl, rfl⟩ | ⟨earlier, rfl, rfl⟩)
    · rfl
    · rw [List.append_assoc, List.cons_append]

/-- What happened at one place of a history that has become longer by one, and was not undone
since, is the last thing that happened, or it had happened before and the last thing does not
undo it. -/
theorem exists_since_snoc_iff {α : Type} {history first : List α} {b undoing : α}
    {P : α → Prop} :
    (∃ a later, history ++ [b] = first ++ a :: later ∧ P a ∧ undoing ∉ later) ↔
      (first = history ∧ P b)
        ∨ b ≠ undoing ∧ ∃ a later, history = first ++ a :: later ∧ P a ∧ undoing ∉ later := by
  constructor
  · rintro ⟨a, later, hhistory, ha, hkept⟩
    rcases snoc_eq_append_cons_iff.1 hhistory with ⟨rfl, rfl, rfl⟩ | ⟨earlier, rfl, hbefore⟩
    · exact .inl ⟨rfl, ha⟩
    · simp only [List.mem_append, List.mem_singleton, not_or] at hkept
      exact .inr ⟨Ne.symm hkept.2, a, earlier, hbefore, ha, hkept.1⟩
  · rintro (⟨rfl, hb⟩ | ⟨hb, a, later, rfl, ha, hkept⟩)
    · exact ⟨b, [], rfl, hb, List.not_mem_nil⟩
    · refine ⟨a, later ++ [b], by simp, ha, ?_⟩
      simp [hkept, Ne.symm hb]

namespace Session

/-- The session that steps lead to from the start.  Statements about every session are statements
about every list of steps. -/
def after (steps : List Step) : Session := (empty.run steps).2

/-- Every step of a run satisfies a condition at the session it finds.  Conditions on steps may
depend on what is stored by then, which a condition on the list of steps could not. -/
def Along (P : Session → Step → Prop) : Session → List Step → Prop
  | _, [] => True
  | s, step :: rest => P s step ∧ Along P (s.step step).2 rest

/-- A condition that can be checked at a step can be checked along a run. -/
instance decidableAlong {P : Session → Step → Prop} [∀ s step, Decidable (P s step)] :
    (s : Session) → (steps : List Step) → Decidable (Along P s steps)
  | _, [] => isTrue trivial
  | s, step :: rest =>
    have := decidableAlong (P := P) (s.step step).2 rest
    inferInstanceAs (Decidable (P s step ∧ Along P (s.step step).2 rest))

/-! ### Splitting runs -/

@[simp]
theorem run_nil (s : Session) : (s.run []).2 = s := rfl

@[simp]
theorem run_cons (s : Session) (step : Step) (rest : List Step) :
    (s.run (step :: rest)).2 = ((s.step step).2.run rest).2 := rfl

/-- Steps in two parts lead to where the second part leads from the end of the
first. -/
@[simp]
theorem run_append (s : Session) (first second : List Step) :
    (s.run (first ++ second)).2 = ((s.run first).2.run second).2 := by
  induction first generalizing s with
  | nil => rfl
  | cons step rest ih => rw [List.cons_append, run_cons, ih, run_cons]

theorem after_append (first second : List Step) :
    after (first ++ second) = ((after first).run second).2 :=
  run_append empty first second

/-- A condition along two parts holds along each of them. -/
theorem along_append {P : Session → Step → Prop} {s : Session} {first second : List Step} :
    Along P s (first ++ second) ↔ Along P s first ∧ Along P (s.run first).2 second := by
  induction first generalizing s with
  | nil => simp [Along]
  | cons step rest ih => rw [List.cons_append, Along, ih, Along, run_cons, and_assoc]

/-- Two conditions that hold along a run hold together along it. -/
theorem Along.and {P Q : Session → Step → Prop} {s : Session} {steps : List Step}
    (hP : Along P s steps) (hQ : Along Q s steps) :
    Along (fun s step => P s step ∧ Q s step) s steps := by
  induction steps generalizing s with
  | nil => trivial
  | cons step rest ih => exact ⟨⟨hP.1, hQ.1⟩, ih hP.2 hQ.2⟩

/-! ### Induction on runs -/

/-- What every step keeps that is taken under a condition, a run under this condition keeps.  All
invariants of sessions are carried along runs by this. -/
theorem run_induction {P : Session → Prop} {Q : Session → Step → Prop}
    (hstep : ∀ s step, Q s step → P s → P (s.step step).2) {s : Session} {steps : List Step}
    (hs : P s) (hsteps : Along Q s steps) : P (s.run steps).2 := by
  induction steps generalizing s with
  | nil => exact hs
  | cons step rest ih =>
    obtain ⟨hq, hrest⟩ := hsteps
    exact ih (hstep s step hq hs) hrest

/-- A condition that always holds, holds along every run. -/
theorem along_of_forall {P : Session → Step → Prop} (h : ∀ s step, P s step) (s : Session)
    (steps : List Step) : Along P s steps := by
  induction steps generalizing s with
  | nil => trivial
  | cons step rest ih => exact ⟨h s step, ih _⟩

theorem after_induction {P : Session → Prop} (hempty : P empty)
    (hstep : ∀ s step, P s → P (s.step step).2) (steps : List Step) : P (after steps) :=
  run_induction (Q := fun _ _ => True) (fun s step _ => hstep s step) hempty
    (along_of_forall (fun _ _ => trivial) _ _)

/-! ### Questions -/

/-- A question whose records are known is answered by its inquiry. -/
theorem outcome_ask {s : Session} {question : Question (Given Design) (Given Version)}
    {resolved : Question Design Version}
    (h : question.resolve? s.design? s.version? = some resolved) :
    (s.step (.ask question)).1 = .ofResult (resolved.inquiry.run s.store).1 := by
  simp only [step, h]

/-- Without an armed failure a question that costs a query is answered from the tables. -/
theorem answer_ask {s : Session} (harmed : s.store.armed = none)
    {question : Question (Given Design) (Given Version)} {resolved : Question Design Version}
    {read : Tables → Answer} (h : question.resolve? s.design? s.version? = some resolved)
    (hasks : resolved.inquiry = .asks read) :
    (s.step (.ask question)).1 = .answer (read s.store.tables) := by
  rw [outcome_ask h, hasks, Inquiry.run, Store.query, harmed]
  rfl

end Session

end DesignHistory
