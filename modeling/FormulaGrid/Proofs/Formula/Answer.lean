/-
# Answers of trees

A tree is evaluated by asking a resolver that keeps a state. Where the resolver leaves its
state alone as long as it answers numbers, the state can be left out: the number of a tree
is then a function of what its names stand for (`Expr.answer`), and evaluation computes it
(`evaluate_run`).

Three facts about that function are all that following references needs of a tree. It looks
at the names in the tree and at nothing else (`answer_congr`), a number needs a number for
every one of them (`exists_of_answer_ok`), and an error is that of a name or arises at one
of two kinds of nodes (`answer_error`).
-/

import FormulaGrid.Formula.Evaluate

namespace FormulaGrid
namespace Formula

/-! ## Runs of an evaluation -/

namespace Evaluation

variable {σ α β : Type}

/-- A run that asks for the state. -/
theorem run_get (c : σ) : (get : Evaluation σ σ).run.run c = (.ok c, c) := rfl

/-- A run of a change of state. -/
theorem run_modify (f : σ → σ) (c : σ) :
    (modify f : Evaluation σ Unit).run.run c = (.ok (), f c) := rfl

/-- **A run goes on with its number** and in the state it has reached; an error ends it. -/
theorem run_bind (m : Evaluation σ α) (f : α → Evaluation σ β) (c : σ) :
    (m >>= f).run.run c =
      match m.run.run c with
      | (.ok a, d) => (f a).run.run d
      | (.error x, d) => (.error x, d) := by
  change (ExceptT.bindCont f (m.run.run c).1).run (m.run.run c).2 = _
  rcases m.run.run c with ⟨x | a, d⟩ <;> rfl

/-- How a run ends whose answer is known: a number keeps the state, and an error comes with
the state it leaves. -/
def ending {ε : Type} (report : ε → Error × σ) (c : σ) : Except ε α → Except Error α × σ
  | .ok a => (.ok a, c)
  | .error x => (.error (report x).1, (report x).2)

end Evaluation

/-! ## The answer of a tree -/

section
variable {ε α β : Type}

/-- A number after a number. -/
theorem bind_eq_ok_iff {m : Except ε α} {f : α → Except ε β} {b : β} :
    m >>= f = .ok b ↔ ∃ a, m = .ok a ∧ f a = .ok b := by
  cases m <;> simp [bind, Except.bind]

/-- The first error is the answer. -/
theorem bind_eq_error_iff {m : Except ε α} {f : α → Except ε β} {x : ε} :
    m >>= f = .error x ↔ m = .error x ∨ ∃ a, m = .ok a ∧ f a = .error x := by
  cases m <;> simp [bind, Except.bind]

/-- Numbers are as they are, however errors are handed in. -/
theorem mapError_eq_ok_iff {m : Except Error α} {raise : Error → ε} {a : α} :
    m.mapError raise = .ok a ↔ m = .ok a := by
  cases m with
  | error err => exact ⟨nofun, nofun⟩
  | ok b =>
    change (Except.ok b : Except ε α) = .ok a ↔ _
    simp

/-- Errors that are handed in by a function. -/
theorem mapError_eq_error_iff {m : Except Error α} {raise : Error → ε} {x : ε} :
    m.mapError raise = .error x ↔ ∃ err, m = .error err ∧ raise err = x := by
  cases m with
  | error err =>
    change (Except.error (raise err) : Except ε α) = .error x ↔ _
    simp
  | ok b => exact ⟨nofun, nofun⟩

end

/-- A divisor that leaves no quotient: zero, or what becomes zero when it is cut to a whole
number and the quotient is one of whole numbers. -/
def BinaryOp.isZeroDivisor : BinaryOp → Float → Bool
  | divide, y => y == 0.0
  | remainder, y => y == 0.0
  | wholeQuotient, y => y == 0.0 || y.toInt32 == 0
  | _, _ => false

/-- **An operator fails exactly at its zero divisors**, and always in the same way. -/
theorem BinaryOp.apply_eq_error_iff {op : BinaryOp} {x y : Float} {err : Error} :
    op.apply x y = .error err ↔ err = .divisionByZero ∧ op.isZeroDivisor y = true := by
  cases op <;> simp only [apply, isZeroDivisor, Number.wholeQuotient?] <;> grind

/-- A function fails exactly without arguments. -/
theorem Function.applyAll_eq_error_iff {f : Function} {xs : List Float} {err : Error} :
    f.applyAll xs = .error err ↔ xs = [] ∧ err = .noArguments f := by
  cases xs <;> simp [applyAll, eq_comm]

namespace Expr

/-- The nodes of a tree: it and the nodes of its operands and arguments. -/
inductive Node : Expr → Expr → Prop
  | root (e : Expr) : Node e e
  | operand {n e : Expr} (op : UnaryOp) : Node n e → Node n (.unary op e)
  | left {n l : Expr} (op : BinaryOp) (r : Expr) : Node n l → Node n (.binary op l r)
  | right {n r : Expr} (op : BinaryOp) (l : Expr) : Node n r → Node n (.binary op l r)
  | argument {n a : Expr} {args : List Expr} (f : Function) :
      a ∈ args → Node n a → Node n (.call f args)

variable {ε : Type}

mutual

/-- **The number of a tree** if names stand for what `look` says, or the first error on the
way to it. The tree's own errors are handed in by `raise`. -/
def answer (look : String → Except ε Float) (raise : Error → ε) : Expr → Except ε Float
  | number value => .ok value
  | reference name => look name
  | unary op e => do
    let x ← e.answer look raise
    .ok (op.apply x)
  | binary op l r => do
    let x ← l.answer look raise
    let y ← r.answer look raise
    (op.apply x y).mapError raise
  | call f args => do
    let xs ← answers look raise args
    (f.applyAll xs).mapError raise

/-- The numbers of a list of trees, or the first error on the way to them. -/
def answers (look : String → Except ε Float) (raise : Error → ε) :
    List Expr → Except ε (List Float)
  | [] => .ok []
  | e :: es => do
    let x ← e.answer look raise
    let xs ← answers look raise es
    .ok (x :: xs)

end

section
variable {look look' : String → Except ε Float} {raise : Error → ε}

mutual

/-- **A tree looks at its own names only.** -/
theorem answer_congr : ∀ e : Expr, (∀ n ∈ e.references, look n = look' n) →
    e.answer look raise = e.answer look' raise
  | number _, _ => rfl
  | reference n, h => h n (by simp [references])
  | unary _ e, h => by
    rw [references] at h
    rw [answer, answer, answer_congr e h]
  | binary _ l r, h => by
    simp only [references, List.mem_append] at h
    rw [answer, answer, answer_congr l fun n hn => h n (.inl hn),
      answer_congr r fun n hn => h n (.inr hn)]
  | call _ args, h => by
    rw [references] at h
    rw [answer, answer, answers_congr args h]

/-- A list of trees looks at the names in it only. -/
theorem answers_congr : ∀ es : List Expr, (∀ n ∈ referencesOfAll es, look n = look' n) →
    answers look raise es = answers look' raise es
  | [], _ => rfl
  | e :: es, h => by
    simp only [referencesOfAll, List.mem_append] at h
    rw [answers, answers, answer_congr e fun n hn => h n (.inl hn),
      answers_congr es fun n hn => h n (.inr hn)]

end

mutual

/-- **A number needs numbers:** a tree that has one has one for every name in it. -/
theorem exists_of_answer_ok : ∀ (e : Expr) {v : Float}, e.answer look raise = .ok v →
    ∀ n ∈ e.references, ∃ x, look n = .ok x
  | number _, _, _, n, hn => by simp [references] at hn
  | reference m, v, h, n, hn => by
    rw [references, List.mem_singleton] at hn
    exact ⟨v, hn ▸ h⟩
  | unary _ e, _, h, n, hn => by
    rw [answer, bind_eq_ok_iff] at h
    obtain ⟨x, he, _⟩ := h
    rw [references] at hn
    exact exists_of_answer_ok e he n hn
  | binary _ l r, _, h, n, hn => by
    simp only [answer, bind_eq_ok_iff] at h
    obtain ⟨x, hl, y, hr, _⟩ := h
    rw [references, List.mem_append] at hn
    exact hn.elim (exists_of_answer_ok l hl n) (exists_of_answer_ok r hr n)
  | call _ args, _, h, n, hn => by
    rw [answer, bind_eq_ok_iff] at h
    obtain ⟨xs, hs, _⟩ := h
    rw [references] at hn
    exact exists_of_answers_ok args hs n hn

/-- Numbers of a list of trees need a number for every name in it. -/
theorem exists_of_answers_ok : ∀ (es : List Expr) {vs : List Float},
    answers look raise es = .ok vs → ∀ n ∈ referencesOfAll es, ∃ x, look n = .ok x
  | [], _, _, n, hn => by simp [referencesOfAll] at hn
  | e :: es, _, h, n, hn => by
    simp only [answers, bind_eq_ok_iff] at h
    obtain ⟨x, he, xs, hs, _⟩ := h
    rw [referencesOfAll, List.mem_append] at hn
    exact hn.elim (exists_of_answer_ok e he n) (exists_of_answers_ok es hs n)

end

section
variable {ε' : Type} {look'' : String → Except ε' Float} {raise' : Error → ε'}

mutual

/-- **A number stays** where all numbers of names stay, whatever becomes of errors. -/
theorem answer_ok_mono : ∀ (e : Expr) {v : Float},
    (∀ n ∈ e.references, ∀ x, look n = .ok x → look'' n = .ok x) →
    e.answer look raise = .ok v → e.answer look'' raise' = .ok v
  | number _, _, _, h => by simpa [answer] using h
  | reference n, v, hn, h => hn n (by simp [references]) v h
  | unary _ e, _, hn, h => by
    rw [references] at hn
    rw [answer, bind_eq_ok_iff] at h ⊢
    obtain ⟨x, he, hv⟩ := h
    exact ⟨x, answer_ok_mono e hn he, by simpa using hv⟩
  | binary _ l r, _, hn, h => by
    simp only [references, List.mem_append] at hn
    simp only [answer, bind_eq_ok_iff, mapError_eq_ok_iff] at h ⊢
    obtain ⟨x, hl, y, hr, hv⟩ := h
    exact ⟨x, answer_ok_mono l (fun n hm => hn n (.inl hm)) hl, y,
      answer_ok_mono r (fun n hm => hn n (.inr hm)) hr, hv⟩
  | call _ args, _, hn, h => by
    rw [references] at hn
    simp only [answer, bind_eq_ok_iff, mapError_eq_ok_iff] at h ⊢
    obtain ⟨xs, hs, hv⟩ := h
    exact ⟨xs, answers_ok_mono args hn hs, hv⟩

/-- The numbers of a list of trees stay where all numbers of names in it stay. -/
theorem answers_ok_mono : ∀ (es : List Expr) {vs : List Float},
    (∀ n ∈ referencesOfAll es, ∀ x, look n = .ok x → look'' n = .ok x) →
    answers look raise es = .ok vs → answers look'' raise' es = .ok vs
  | [], _, _, h => by simpa [answers] using h
  | e :: es, _, hn, h => by
    simp only [referencesOfAll, List.mem_append] at hn
    simp only [answers, bind_eq_ok_iff] at h ⊢
    obtain ⟨x, he, xs, hs, hv⟩ := h
    exact ⟨x, answer_ok_mono e (fun n hm => hn n (.inl hm)) he, xs,
      answers_ok_mono es (fun n hm => hn n (.inr hm)) hs, by simpa using hv⟩

end

end

/-- A list of trees has as many numbers as it has trees, so none only if it is empty. -/
theorem eq_nil_of_answers_ok : ∀ es : List Expr, answers look raise es = .ok [] → es = []
  | [], _ => rfl
  | e :: es, h => by simp [answers, bind_eq_ok_iff] at h

/-- Where the error of a tree comes from: a name in it, an operator both of whose operands
have numbers, or a call without arguments. -/
inductive Origin (look : String → Except ε Float) (raise : Error → ε) (e : Expr) (x : ε) : Prop
  | name (n : String) : n ∈ e.references → look n = .error x → Origin look raise e x
  | quotient (op : BinaryOp) (l r : Expr) (y z : Float) : Node (.binary op l r) e →
      l.answer look raise = .ok y → r.answer look raise = .ok z → op.isZeroDivisor z = true →
      x = raise .divisionByZero → Origin look raise e x
  | call (f : Function) : Node (.call f []) e → x = raise (.noArguments f) →
      Origin look raise e x

/-- The origin of an error in a part of a tree is one in the tree. -/
theorem Origin.lift {e e' : Expr} {x : ε} (h : Origin look raise e x)
    (hnames : ∀ n ∈ e.references, n ∈ e'.references) (hnodes : ∀ n, Node n e → Node n e') :
    Origin look raise e' x := by
  cases h with
  | name n hn hx => exact .name n (hnames n hn) hx
  | quotient op l r y z hnode hl hr hz hx => exact .quotient op l r y z (hnodes _ hnode) hl hr hz hx
  | call f hnode hx => exact .call f (hnodes _ hnode) hx

/-- A name in an argument is one in the arguments. -/
theorem mem_referencesOfAll {n : String} {es : List Expr} :
    n ∈ referencesOfAll es ↔ ∃ e ∈ es, n ∈ e.references := by
  induction es with
  | nil => simp [referencesOfAll]
  | cons e es ih => simp [referencesOfAll, ih]

mutual

/-- **Every error of a tree has an origin in it.** -/
theorem answer_error : ∀ (e : Expr) {x : ε}, e.answer look raise = .error x →
    Origin look raise e x
  | number _, _, h => by simp [answer] at h
  | reference n, _, h => .name n (by simp [references]) h
  | unary op e, x, h => by
    simp only [answer, bind_eq_error_iff, reduceCtorEq, and_false, exists_false, or_false] at h
    exact (answer_error e h).lift (fun n hn => by rwa [references]) fun n hn => .operand op hn
  | binary op l r, x, h => by
    simp only [answer, bind_eq_error_iff, mapError_eq_error_iff] at h
    rcases h with hl | ⟨y, hl, hr | ⟨z, hr, err, ha, hx⟩⟩
    · exact (answer_error l hl).lift (fun n hn => by simp [references, hn])
        fun n hn => .left op r hn
    · exact (answer_error r hr).lift (fun n hn => by simp [references, hn])
        fun n hn => .right op l hn
    · -- both operands have numbers, so the operator itself fails
      obtain ⟨rfl, hz⟩ := BinaryOp.apply_eq_error_iff.1 ha
      exact .quotient op l r y z (.root _) hl hr hz hx.symm
  | call f args, x, h => by
    simp only [answer, bind_eq_error_iff, mapError_eq_error_iff] at h
    rcases h with hs | ⟨xs, hs, err, ha, hx⟩
    · obtain ⟨a, ha, ho⟩ := answers_error args hs
      refine ho.lift (fun n hn => ?_) fun n hn => .argument f ha hn
      rw [references]
      exact mem_referencesOfAll.2 ⟨a, ha, hn⟩
    · -- all arguments have numbers, so the function itself fails, having none
      obtain ⟨rfl, rfl⟩ := Function.applyAll_eq_error_iff.1 ha
      obtain rfl := eq_nil_of_answers_ok args hs
      exact .call f (.root _) hx.symm

/-- Every error of a list of trees has an origin in one of them. -/
theorem answers_error : ∀ (es : List Expr) {x : ε}, answers look raise es = .error x →
    ∃ e ∈ es, Origin look raise e x
  | [], _, h => by simp [answers] at h
  | e :: es, x, h => by
    simp only [answers, bind_eq_error_iff, reduceCtorEq, and_false, exists_false, or_false] at h
    rcases h with he | ⟨y, _, hs⟩
    · exact ⟨e, List.mem_cons_self, answer_error e he⟩
    · obtain ⟨a, ha, ho⟩ := answers_error es hs
      exact ⟨a, List.mem_cons_of_mem _ ha, ho⟩

end

end

/-! ## Evaluation computes the answer -/

section
variable {σ : Type} {resolve : Resolver σ} {look : String → Except ε Float}
  (raise : Error → ε) (report : ε → Error × σ) {c : σ}

/-- An answer that needs no state, its error handed in and reported. -/
theorem ending_mapError (hraise : ∀ err, report (raise err) = (err, c))
    (a : Except Error Float) : Evaluation.ending report c (a.mapError raise) = (a, c) := by
  cases a with
  | ok x => rfl
  | error err =>
    change (Except.error (report (raise err)).1, (report (raise err)).2) = _
    rw [hraise]

mutual

/-- **Evaluation computes the answer of a tree** if the resolver, from one state, answers
what the names stand for: a number leaves that state, so it is still the state at the next
name. -/
theorem evaluate_run (hraise : ∀ err, report (raise err) = (err, c)) : ∀ e : Expr,
    (∀ n ∈ e.references, (resolve n).run.run c = Evaluation.ending report c (look n)) →
    (e.evaluate resolve).run.run c = Evaluation.ending report c (e.answer look raise)
  | number _, _ => rfl
  | reference n, h => h n (by simp [references])
  | unary op e, h => by
    rw [references] at h
    rw [evaluate, answer, Evaluation.run_bind, evaluate_run hraise e h]
    cases e.answer look raise <;> rfl
  | binary op l r, h => by
    simp only [references, List.mem_append] at h
    rw [evaluate, answer, Evaluation.run_bind,
      evaluate_run hraise l fun n hn => h n (.inl hn)]
    cases l.answer look raise with
    | error x => rfl
    | ok x =>
      have hr := evaluate_run hraise r fun n hn => h n (.inr hn)
      simp only [Evaluation.ending, Evaluation.run_bind, hr]
      cases r.answer look raise with
      | error y => rfl
      | ok y => exact (ending_mapError raise report hraise (op.apply x y)).symm
  | call f args, h => by
    rw [references] at h
    rw [evaluate, answer, Evaluation.run_bind, evaluateAll_run hraise args h]
    cases answers look raise args with
    | error x => rfl
    | ok xs => exact (ending_mapError raise report hraise (f.applyAll xs)).symm

/-- Evaluation of a list of trees computes their answers. -/
theorem evaluateAll_run (hraise : ∀ err, report (raise err) = (err, c)) : ∀ es : List Expr,
    (∀ n ∈ referencesOfAll es, (resolve n).run.run c = Evaluation.ending report c (look n)) →
    (evaluateAll resolve es).run.run c = Evaluation.ending report c (answers look raise es)
  | [], _ => rfl
  | e :: es, h => by
    simp only [referencesOfAll, List.mem_append] at h
    rw [evaluateAll, answers, Evaluation.run_bind,
      evaluate_run hraise e fun n hn => h n (.inl hn)]
    cases e.answer look raise with
    | error x => rfl
    | ok x =>
      have hs := evaluateAll_run hraise es fun n hn => h n (.inr hn)
      simp only [Evaluation.ending, Evaluation.run_bind, hs]
      cases answers look raise es <;> rfl

end

end

end Expr
end Formula
end FormulaGrid
