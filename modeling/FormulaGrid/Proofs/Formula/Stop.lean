/-
# Where a tree stops

A tree without a number stops either at a name, whose error is its answer then, or with an error of
its own. Which of the two it is, and where, is decided by the numbers that its names have. It stays
so if these are kept, whatever becomes of the names without a number. So a tree stops at the first
thing that keeps it from a number, and that is always one of the two (`answer_eq_error_iff`).
-/

import FormulaGrid.Proofs.Formula.Answer

namespace FormulaGrid
namespace Formula

/-- What is answered if names stand for something, errors of its own being handed in. -/
abbrev Answering (α : Type) := ∀ ε : Type, (String → Except ε Float) → (Error → ε) → Except ε α

section
variable {ε ε' α β : Type}

/-- The numbers of some names are kept. -/
def Keeps (names : List String) (look : String → Except ε Float)
    (look' : String → Except ε' Float) : Prop :=
  ∀ n ∈ names, ∀ v, look n = .ok v → look' n = .ok v

/-- **A stop at a name:** any error that the name has is the answer. -/
def StopsAt (names : List String) (q : Answering α) (look : String → Except ε Float)
    (n : String) : Prop :=
  n ∈ names ∧ ∀ (ε' : Type) (look' : String → Except ε' Float) (raise' : Error → ε') (y : ε'),
    Keeps names look look' → look' n = .error y → q ε' look' raise' = .error y

/-- **A stop with an own error**, whatever the names without a number stand for. -/
def StopsWith (names : List String) (q : Answering α) (look : String → Except ε Float)
    (err : Error) : Prop :=
  ∀ (ε' : Type) (look' : String → Except ε' Float) (raise' : Error → ε'),
    Keeps names look look' → q ε' look' raise' = .error (raise' err)

/-- A stop that has the error `x`. -/
def Stops (names : List String) (q : Answering α) (look : String → Except ε Float)
    (raise : Error → ε) (x : ε) : Prop :=
  (∃ n, StopsAt names q look n ∧ look n = .error x) ∨
    ∃ err, StopsWith names q look err ∧ raise err = x

variable {names names' : List String} {q : Answering α} {look : String → Except ε Float}
  {raise : Error → ε} {x : ε}

/-- Numbers are kept where nothing changes. -/
theorem Keeps.refl (names : List String) (look : String → Except ε Float) :
    Keeps names look look := fun _ _ _ h => h

/-- Fewer names keep their numbers if more do. -/
theorem Keeps.mono {look' : String → Except ε' Float} (h : Keeps names' look look')
    (hnames : ∀ n ∈ names, n ∈ names') : Keeps names look look' :=
  fun n hn => h n (hnames n hn)

/-- What stops is not gone on with. -/
theorem Stops.bind (h : Stops names q look raise x) (hnames : ∀ n ∈ names, n ∈ names')
    (f : α → Answering β) :
    Stops names' (fun ε look raise => q ε look raise >>= fun a => f a ε look raise)
      look raise x := by
  rcases h with ⟨n, ⟨hn, hstop⟩, hx⟩ | ⟨err, hstop, hx⟩
  · refine .inl ⟨n, ⟨hnames n hn, fun ε' look' raise' y hkeeps hy => ?_⟩, hx⟩
    dsimp only
    rw [hstop ε' look' raise' y (hkeeps.mono hnames) hy]
    rfl
  · refine .inr ⟨err, fun ε' look' raise' hkeeps => ?_, hx⟩
    dsimp only
    rw [hstop ε' look' raise' (hkeeps.mono hnames)]
    rfl

/-- What comes after an answer that is kept stops as it would alone. -/
theorem Stops.after {a : α} {f : α → Answering β}
    (hq : ∀ (ε' : Type) (look' : String → Except ε' Float) (raise' : Error → ε'),
      Keeps names look look' → q ε' look' raise' = .ok a)
    (h : Stops names (f a) look raise x) :
    Stops names (fun ε look raise => q ε look raise >>= fun a => f a ε look raise)
      look raise x := by
  rcases h with ⟨n, ⟨hn, hstop⟩, hx⟩ | ⟨err, hstop, hx⟩
  · refine .inl ⟨n, ⟨hn, fun ε' look' raise' y hkeeps hy => ?_⟩, hx⟩
    dsimp only
    rw [hq ε' look' raise' hkeeps]
    exact hstop ε' look' raise' y hkeeps hy
  · refine .inr ⟨err, fun ε' look' raise' hkeeps => ?_, hx⟩
    dsimp only
    rw [hq ε' look' raise' hkeeps]
    exact hstop ε' look' raise' hkeeps

/-- An error that is handed in is an own error. -/
theorem stops_of_mapError {m : Except Error α} (h : m.mapError raise = .error x) :
    Stops names (fun _ _ raise => m.mapError raise) look raise x := by
  obtain ⟨err, rfl, hx⟩ := mapError_eq_error_iff.1 h
  exact .inr ⟨err, fun _ _ _ _ => rfl, hx⟩

end

namespace Expr

variable {ε : Type} {look : String → Except ε Float} {raise : Error → ε} {x : ε}

/-- What is answered by a tree. -/
def answering (e : Expr) : Answering Float := fun _ look raise => e.answer look raise

/-- What is answered by a list of trees. -/
def answeringAll (es : List Expr) : Answering (List Float) :=
  fun _ look raise => answers look raise es

mutual

/-- **A tree without a number stops.** -/
theorem stops_of_answer : ∀ (e : Expr) {x : ε}, e.answer look raise = .error x →
    Stops e.references e.answering look raise x
  | number _, _, h => by simp [answer] at h
  | reference n, x, h =>
    .inl ⟨n, ⟨by simp [references], fun _ _ _ _ _ hy => hy⟩, h⟩
  | unary op e, x, h => by
    simp only [answer, bind_eq_error_iff, reduceCtorEq, and_false, exists_false, or_false] at h
    rw [references]
    exact (stops_of_answer e h).bind (fun _ hn => hn) _
  | binary op l r, x, h => by
    simp only [answer, bind_eq_error_iff] at h
    have hleft : ∀ n ∈ l.references, n ∈ (binary op l r).references := by
      simp +contextual [references]
    have hright : ∀ n ∈ r.references, n ∈ (binary op l r).references := by
      simp +contextual [references]
    rcases h with hl | ⟨y, hl, h⟩
    · exact (stops_of_answer l hl).bind hleft _
    · refine .after (q := l.answering)
        (fun _ _ _ hkeeps => answer_ok_mono l (hkeeps.mono hleft) hl) ?_
      rcases h with hr | ⟨z, hr, ha⟩
      · exact (stops_of_answer r hr).bind hright _
      · exact .after (q := r.answering)
          (fun _ _ _ hkeeps => answer_ok_mono r (hkeeps.mono hright) hr) (stops_of_mapError ha)
  | call f args, x, h => by
    simp only [answer, bind_eq_error_iff] at h
    rw [references]
    rcases h with hs | ⟨xs, hs, ha⟩
    · exact (stops_of_answers args hs).bind (fun _ hn => hn) _
    · exact .after (q := answeringAll args)
        (fun _ _ _ hkeeps => answers_ok_mono args hkeeps hs) (stops_of_mapError ha)

/-- A list of trees without numbers stops. -/
theorem stops_of_answers : ∀ (es : List Expr) {x : ε}, answers look raise es = .error x →
    Stops (referencesOfAll es) (answeringAll es) look raise x
  | [], _, h => by simp [answers] at h
  | e :: es, x, h => by
    simp only [answers, bind_eq_error_iff, reduceCtorEq, and_false, exists_false, or_false] at h
    have hhead : ∀ n ∈ e.references, n ∈ referencesOfAll (e :: es) := by
      simp +contextual [referencesOfAll]
    have htail : ∀ n ∈ referencesOfAll es, n ∈ referencesOfAll (e :: es) := by
      simp +contextual [referencesOfAll]
    rcases h with he | ⟨y, he, hs⟩
    · exact (stops_of_answer e he).bind hhead _
    · exact .after (q := e.answering)
        (fun _ _ _ hkeeps => answer_ok_mono e (hkeeps.mono hhead) he)
        ((stops_of_answers es hs).bind htail _)

end

/-- **Where a tree stops:** its error is that of the name that it stops at, or its own. -/
theorem answer_eq_error_iff (e : Expr) :
    e.answer look raise = .error x ↔ Stops e.references e.answering look raise x := by
  refine ⟨stops_of_answer e, ?_⟩
  rintro (⟨n, ⟨-, hstop⟩, hx⟩ | ⟨err, hstop, rfl⟩)
  · exact hstop ε look raise x (Keeps.refl _ _) hx
  · exact hstop ε look raise (Keeps.refl _ _)

/-- **Where the answers of a tree part** if only errors of names change: at one name, the error of
which is the answer both before and after. -/
theorem answer_eq_or_parts {look' : String → Except ε Float} (e : Expr)
    (h : Keeps e.references look look') : e.answer look' raise = e.answer look raise ∨
      ∃ n ∈ e.references, look' n ≠ look n ∧ e.answer look raise = look n ∧
        ∀ y, look' n = .error y → e.answer look' raise = .error y := by
  cases he : e.answer look raise with
  | ok v => exact .inl (answer_ok_mono e h he)
  | error x =>
    rcases (answer_eq_error_iff e).1 he with ⟨n, ⟨hn, hstop⟩, hx⟩ | ⟨err, hstop, rfl⟩
    · by_cases heq : look' n = look n
      · exact .inl (hstop ε look' raise x h (heq.trans hx))
      · exact .inr ⟨n, hn, heq, hx.symm, fun y hy => hstop ε look' raise y h hy⟩
    · exact .inl (hstop ε look' raise h)

end Expr
end Formula
end FormulaGrid
