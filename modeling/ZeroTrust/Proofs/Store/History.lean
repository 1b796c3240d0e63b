/-
  `Proofs.Store.History` — what a store remembers of the calls made to it.

  The calls of a run and what they answered tell what a store holds: under an id
  there is the policy that the last successful save of it handed out, unless it was
  deleted since (`recalled?`). One call adds to the store what its answer tells
  (`find?_after`), and the run follows call by call (`find?_run`).

  So a call that failed is not remembered, and a call about one id does not touch
  what is stored under another (`get_run_eq_recalled`). Whether ids for new policies
  were free makes no difference to this.
-/
import ZeroTrust.Proofs.Store.Run

namespace ZeroTrust

namespace Store

variable {P : Type} [Policy P]

/-! ### Answers -/

/-- The id that a call is about. Listing is about no id. -/
def Call.subject? : Call P → Option String
  | create fresh _ p => some (idFor fresh p)
  | update _ p => some (Policy.id p)
  | setEnabled _ id _ | delete id | get id => some id
  | list => none

/-- Whether a call only reads. -/
def Call.isRead : Call P → Bool
  | get _ | list => true
  | _ => false

/-- Whether a call succeeds in creating, replacing, switching or deleting the policy under an id. -/
def Call.Writes (s : Store P) (id : String) (c : Call P) : Prop :=
  c.Succeeds s ∧ c.subject? = some id ∧ c.isRead = false

instance (s : Store P) (id : String) (c : Call P) : Decidable (c.Writes s id) :=
  inferInstanceAs (Decidable (c.Succeeds s ∧ c.subject? = some id ∧ c.isRead = false))

/-- A call with the policies that it handed out, or the reason why it failed. -/
structure Answered (P : Type) where
  call : Call P
  answer : Except Error (List P)

/-- The calls of a run with their answers. -/
def answered (s : Store P) : List (Call P) → List (Answered P)
  | [] => []
  | c :: cs => ⟨c, (c.answer s).map Prod.fst⟩ :: answered (c.after s) cs

/-- What an answered call tells about the policy under an id: the one that it saved and handed out,
or that there is none any more. Failed calls and calls that only read tell nothing, nor do calls
about another id. -/
def Answered.tells? (id : String) (a : Answered P) : Option (Option P) :=
  if a.call.subject? = some id then
    match a.call, a.answer with
    | .create _ _ _, .ok ps | .update _ _, .ok ps | .setEnabled _ _ _, .ok ps => some ps.head?
    | .delete _, .ok _ => some none
    | _, _ => none
  else none

/-- The policy under an id, as the last call has it that tells something about it. -/
def recalled? (id : String) (history : List (Answered P)) : Option P :=
  (history.reverse.findSome? (Answered.tells? id)).getD none

@[simp] theorem answered_nil (s : Store P) : s.answered [] = [] := rfl

@[simp] theorem answered_cons (s : Store P) (c : Call P) (cs : List (Call P)) :
    s.answered (c :: cs) = ⟨c, (c.answer s).map Prod.fst⟩ :: (c.after s).answered cs := rfl

/-! ### One call -/

section Calls

variable {s : Store P} {c : Call P}

omit [Policy P] in
theorem get_eq_elim (s : Store P) (id : String) :
    s.get id = (s.policies.find? id).elim (.error (.policyNotFound id)) .ok := by
  rw [get]
  cases s.policies.find? id <;> rfl

theorem after_of_isRead (h : c.isRead = true) : c.after s = s := by
  cases c with
  | get id =>
    rw [Call.after, Call.answer]
    cases s.get id <;> rfl
  | list => rfl
  | create _ _ _ => cases h
  | update _ _ => cases h
  | setEnabled _ _ _ => cases h
  | delete _ => cases h

theorem tells?_of_subject?_ne {id : String} {answer : Except Error (List P)}
    (h : c.subject? ≠ some id) : Answered.tells? id ⟨c, answer⟩ = none :=
  if_neg h

theorem tells?_error (c : Call P) (id : String) (e : Error) :
    Answered.tells? id ⟨c, .error e⟩ = none := by
  rw [Answered.tells?]
  split
  · cases c <;> rfl
  · rfl

variable [LawfulPolicy P] {id : String}

/-- **What a call leaves under an id is what its answer tells**, and what was there before where it
tells nothing. -/
theorem find?_after (s : Store P) (c : Call P) (id : String) :
    (c.after s).policies.find? id =
      (Answered.tells? id ⟨c, (c.answer s).map Prod.fst⟩).getD (s.policies.find? id) := by
  cases hanswer : c.answer s with
  | error e =>
    -- A call that fails tells nothing and leaves everything.
    rw [after_of_answer_eq_error hanswer, Except.map, tells?_error]
    rfl
  | ok result =>
    rw [after_of_answer_eq_ok hanswer, Except.map, Answered.tells?]
    -- A call writes under the id that it is about, so what is found there is what is told.
    cases c with
    | create fresh now p =>
      obtain ⟨r, hr, rfl⟩ := (Except.map_eq_ok_iff _ _ _).1 hanswer
      rw [find?_of_create hr, Call.subject?]
      grind
    | update now p =>
      obtain ⟨r, hr, rfl⟩ := (Except.map_eq_ok_iff _ _ _).1 hanswer
      rw [find?_of_update hr, Call.subject?]
      grind
    | setEnabled now name enabled =>
      obtain ⟨r, hr, rfl⟩ := (Except.map_eq_ok_iff _ _ _).1 hanswer
      rw [find?_of_setEnabled hr, Call.subject?]
      grind
    | delete name =>
      obtain ⟨r, hr, rfl⟩ := (Except.map_eq_ok_iff _ _ _).1 hanswer
      rw [find?_of_delete hr, Call.subject?]
      grind
    | get name =>
      obtain ⟨r, hr, rfl⟩ := (Except.map_eq_ok_iff _ _ _).1 hanswer
      simp
    | list =>
      obtain rfl := Except.ok.inj hanswer
      simp [Call.subject?]

theorem get_after_of_subject?_ne {c : Call P} (h : c.subject? ≠ some id) :
    (c.after s).get id = s.get id := by
  have hfind := find?_after s c id
  rw [tells?_of_subject?_ne h] at hfind
  rw [get_eq_elim, get_eq_elim, hfind]
  rfl

/-- A call that does not write under an id leaves what is stored there. -/
theorem get_after_of_not_writes {c : Call P} (h : ¬ c.Writes s id) :
    (c.after s).get id = s.get id := by
  cases hanswer : c.answer s with
  | error e => rw [after_of_answer_eq_error hanswer]
  | ok result =>
    cases hread : c.isRead with
    | true => rw [after_of_isRead hread]
    | false =>
      -- What succeeds and is no reading would write, if it were about this id.
      have hsubject : c.subject? ≠ some id := fun hsubject =>
        h ⟨⟨result.1, result.2, hanswer⟩, hsubject, hread⟩
      exact get_after_of_subject?_ne hsubject

end Calls

/-! ### Whole runs -/

variable [LawfulPolicy P]

/-- **What a run leaves under an id is what its calls tell**, and what was there before where none
tells anything. -/
theorem find?_run (s : Store P) (cs : List (Call P)) (id : String) :
    (s.run cs).policies.find? id =
      ((s.answered cs).reverse.findSome? (Answered.tells? id)).getD (s.policies.find? id) := by
  induction cs generalizing s with
  | nil => rfl
  | cons c cs ih =>
    -- The first call counts where no later one tells anything.
    rw [run_cons, ih, find?_after, answered_cons, List.reverse_cons, List.findSome?_append,
      List.findSome?_singleton, Option.getD_or]

/-- **A store remembers exactly the successful saves**: what it has under an id is what the last
successful save handed out, unless it was deleted since. A call that fails changes no later answer,
and a call about another id does not change what is under an id. -/
theorem get_run_eq_recalled (cs : List (Call P)) (id : String) :
    (empty.run cs).get id =
        (recalled? id (empty.answered cs)).elim (.error (.policyNotFound id)) .ok ∧
      (∀ c e, c.answer (empty.run cs) = .error e → ∀ later,
        empty.run (cs ++ c :: later) = empty.run (cs ++ later) ∧
          (empty.run (cs ++ [c])).answered later = (empty.run cs).answered later) ∧
      ∀ c : Call P, c.subject? ≠ some id →
        (empty.run (cs ++ [c])).get id = (empty.run cs).get id := by
  refine ⟨?_, fun c e herror later => ?_, fun c hother => ?_⟩
  · have hfind : (empty.run cs).policies.find? id = recalled? id (empty.answered cs) :=
      find?_run empty cs id
    rw [get_eq_elim, hfind]
  · -- The store after the call that fails is the one before it.
    have hafter := after_of_answer_eq_error herror
    simp [hafter]
  · rw [run_append, run_cons, run_nil]
    exact get_after_of_subject?_ne hother

def office : AccessPolicy :=
  { AccessPolicy.new "office" 100 with id := "a" }

/-- A policy is created and switched, while creating it again and replacing its first version
fail. -/
def officeCalls : List (Call AccessPolicy) :=
  [.create "" .epoch office, .create "" .epoch office, .setEnabled .epoch "a" false,
    .update .epoch (Policy.stamped office 1 .epoch), .get "a"]

/-- The switched policy is remembered, deleting another one fails without a trace, and creating
another one makes no difference to it. -/
theorem get_run_eq_recalled_officeCalls :
    (empty.run officeCalls).get "a" =
        .ok (Policy.stamped (Policy.withEnabled office false) 2 .epoch) ∧
      (∀ later, empty.run (officeCalls ++ .delete "b" :: later) =
        empty.run (officeCalls ++ later)) ∧
      (empty.run (officeCalls ++ [.create "b" .epoch (AccessPolicy.new "laboratory" 7)])).get "a" =
        (empty.run officeCalls).get "a" := by
  have ⟨hget, hfailed, hother⟩ := get_run_eq_recalled officeCalls "a"
  have hrecalled : recalled? "a" (empty.answered officeCalls) =
      some (Policy.stamped (Policy.withEnabled office false) 2 .epoch) := by decide +kernel
  have herror : (Call.delete "b").answer (empty.run officeCalls) = .error (.policyNotFound "b") :=
    rfl
  rw [hrecalled] at hget
  exact ⟨hget, fun later => (hfailed _ _ herror later).1, hother _ (by decide +kernel)⟩

end Store

end ZeroTrust
