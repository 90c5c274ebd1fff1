/-
# The questions of an evaluation, in order

A resolver that writes down what it is asked and what it answers (`recording`) shows the questions
of an evaluation and changes nothing else. They go on from left to right through the names of the
tree, which are those of the text (`Derivation.references_tree`), and come to an end in one of three
ways (`Course`):

| the evaluation | has asked for | and was answered |
| --- | --- | --- |
| goes through | all names | numbers |
| is refused | some, from the first one on | numbers, but an error for the last of them |
| fails | some, from the first one on | numbers |

It is refused with the error that it was answered, and fails with one of its own. Parts of a tree
that are evaluated one after the other go on like this if each of them does (`Recorded.bind`), since
nothing is asked for after an error.
-/

import FormulaGrid.Proofs.Formula.Acceptance
import FormulaGrid.Proofs.Formula.Answer

namespace FormulaGrid
namespace Formula

/-! ## The names of a text -/

/-- The name of a cell that a token is. -/
def Token.cellName? : Token → Option String
  | cell name => some name
  | _ => none

/-- **The names of cells among tokens**, from left to right, one for each mention. -/
def cellNames (tokens : List Token) : List String := tokens.filterMap Token.cellName?

/-- Names are those of the tokens before and those of the tokens after. -/
theorem cellNames_append (tokens tokens' : List Token) :
    cellNames (tokens ++ tokens') = cellNames tokens ++ cellNames tokens' :=
  List.filterMap_append

/-- A token that is no name adds none. -/
theorem cellNames_cons {token : Token} (h : token.cellName? = none) (tokens : List Token) :
    cellNames (token :: tokens) = cellNames tokens :=
  List.filterMap_cons_none h

/-- Steps after a sign have no names. -/
theorem references_foldl_steps (os : List Step) (e : Expr) :
    (os.foldl (fun e o => .unary o.op e) e).references =
      e.references ++ cellNames (os.map Step.token) := by
  induction os generalizing e with
  | nil => simp [cellNames]
  | cons o os ih =>
    have ho : o.token.cellName? = none := by cases o <;> rfl
    rw [List.foldl_cons, ih, List.map_cons, cellNames_cons ho, Expr.references]

/-- Operators between the operands of a chain are no names. -/
theorem Operator.cellName?_token {t : Tier} (o : Operator t) : o.token.cellName? = none := by
  cases o <;> rfl

mutual

/-- **The names of a tree are those among the tokens** that it is derived from. -/
theorem Derivation.references_tree : ∀ {c : Symbol} (d : Derivation c),
    d.tree.references = cellNames d.yield
  | _, .chain first rounds => by
    rw [Derivation.tree, Derivation.yield, rounds.references_treeFrom, first.references_tree,
      cellNames_append]
  | _, .base x => by rw [Derivation.tree, Derivation.yield, x.references_tree]
  | _, .raised x y => by
    rw [Derivation.tree, Derivation.yield, Expr.references, x.references_tree, y.references_tree,
      cellNames_append, cellNames_cons rfl]
  | _, .stepped o x => by
    rw [Derivation.tree, Derivation.yield, Expr.references, x.references_tree,
      cellNames_cons (by cases o <;> rfl)]
  | _, .unstepped x os => by
    rw [Derivation.tree, Derivation.yield, references_foldl_steps, x.references_tree,
      cellNames_append]
  | _, .signed o x => by
    rw [Derivation.tree, Derivation.yield, Expr.references, x.references_tree,
      cellNames_cons (by cases o <;> rfl)]
  | _, .unsigned x => by rw [Derivation.tree, Derivation.yield, x.references_tree]
  | _, .number _ => rfl
  | _, .cell _ => rfl
  | _, .call f args => by
    have hparen : cellNames [.rightParen] = [] := rfl
    rw [Derivation.tree, Derivation.yield, Expr.references, args.references_trees,
      cellNames_cons (by cases f <;> rfl), cellNames_cons rfl, cellNames_append, hparen,
      List.append_nil]
  | _, .group x => by
    have hparen : cellNames [.rightParen] = [] := rfl
    rw [Derivation.tree, Derivation.yield, x.references_tree, cellNames_cons rfl,
      cellNames_append, hparen, List.append_nil]

/-- The names of rounds come after those of what stands before them. -/
theorem Rounds.references_treeFrom : ∀ {t : Tier} (rounds : Rounds t) (left : Expr),
    (rounds.treeFrom left).references = left.references ++ cellNames rounds.yield
  | _, .done, left => by
    rw [Rounds.treeFrom, Rounds.yield, cellNames, List.filterMap_nil, List.append_nil]
  | _, .round o x more, left => by
    rw [Rounds.treeFrom, Rounds.yield, more.references_treeFrom, Expr.references,
      x.references_tree, cellNames_cons o.cellName?_token, cellNames_append, List.append_assoc]

/-- The names of arguments. -/
theorem Arguments.references_trees : ∀ args : Arguments,
    Expr.referencesOfAll args.trees = cellNames args.yield
  | .empty => rfl
  | .list first more => by
    rw [Arguments.trees, Arguments.yield, Expr.referencesOfAll, first.references_tree,
      more.references_trees, cellNames_append]

/-- The names of further arguments. -/
theorem MoreArguments.references_trees : ∀ more : MoreArguments,
    Expr.referencesOfAll more.trees = cellNames more.yield
  | .done => rfl
  | .argument x more => by
    rw [MoreArguments.trees, MoreArguments.yield, Expr.referencesOfAll, x.references_tree,
      more.references_trees, cellNames_cons rfl, cellNames_append]

end

/-- The names of a parsed text are those of its tree. -/
theorem cellNames_of_parse {cs : List Char} {e : Expr} (h : parse cs = .ok e) :
    e.references = cellNames ((lexemes cs).items.map Lexeme.token) := by
  obtain ⟨d, ⟨-, htokens⟩, -, rfl⟩ := parse_eq_ok_iff.1 h
  rw [htokens, d.references_tree]

/-! ## Questions -/

/-- A name that was asked for, and what was answered. -/
structure Inquiry where
  name : String
  answer : Except Error Float

/-- Whether a number was answered. -/
def Inquiry.Answered (q : Inquiry) : Prop := ∃ x, q.answer = .ok x

/-- The errors that an evaluation makes itself. -/
def Error.IsOwn (err : Error) : Prop := err = .divisionByZero ∨ ∃ f, err = .noArguments f

/-- **How an evaluation ends that may ask for some names,** and what it has asked for. -/
inductive Course {α : Type} (names : List String) : List Inquiry → Except Error α → Prop
  | through {asked : List Inquiry} (a : α) : asked.map Inquiry.name = names →
      (∀ q ∈ asked, q.Answered) → Course names asked (.ok a)
  | refused {asked : List Inquiry} {n : String} {err : Error} :
      asked.map Inquiry.name ++ [n] <+: names → (∀ q ∈ asked, q.Answered) →
      Course names (asked ++ [⟨n, .error err⟩]) (.error err)
  | failed {asked : List Inquiry} {err : Error} : asked.map Inquiry.name <+: names →
      (∀ q ∈ asked, q.Answered) → err.IsOwn → Course names asked (.error err)

section
variable {α β : Type} {names names' : List String} {asked asked' : List Inquiry}

/-- What went through was answered with numbers for all names. -/
theorem Course.of_ok {a : α} (h : Course names asked (.ok a)) :
    asked.map Inquiry.name = names ∧ ∀ q ∈ asked, q.Answered := by
  cases h with
  | through _ hnames hall => exact ⟨hnames, hall⟩

/-- **What did not go through** stopped at the name it asked for last, or by itself. -/
theorem Course.of_error {err : Error} (h : Course names asked (.error err : Except Error α)) :
    asked.map Inquiry.name <+: names ∧
      ((∃ front n, asked = front ++ [⟨n, .error err⟩] ∧ ∀ q ∈ front, q.Answered) ∨
        (∀ q ∈ asked, q.Answered) ∧ err.IsOwn) := by
  cases h with
  | refused hstart hall => exact ⟨by simpa using hstart, .inl ⟨_, _, rfl, hall⟩⟩
  | failed hstart hall hown => exact ⟨hstart, .inr ⟨hall, hown⟩⟩

/-- What has ended with an error has ended with it, whatever names would have come. -/
theorem Course.mono {err : Error} (h : Course names asked (.error err : Except Error α))
    (hnames : names <+: names') : Course names' asked (.error err : Except Error β) := by
  cases h with
  | refused hstart hall => exact .refused (hstart.trans hnames) hall
  | failed hstart hall hown => exact .failed (hstart.trans hnames) hall hown

/-- **What has gone through goes on.** -/
theorem Course.after {answer : Except Error β} (hasked : asked.map Inquiry.name = names)
    (hall : ∀ q ∈ asked, q.Answered) (h : Course names' asked' answer) :
    Course (names ++ names') (asked ++ asked') answer := by
  subst hasked
  cases h with
  | through b hnames hall' =>
    exact .through b (by rw [List.map_append, hnames]) (List.forall_mem_append.2 ⟨hall, hall'⟩)
  | refused hstart hall' =>
    rw [← List.append_assoc]
    refine .refused ?_ (List.forall_mem_append.2 ⟨hall, hall'⟩)
    rwa [List.map_append, List.append_assoc, List.prefix_append_right_inj]
  | failed hstart hall' hown =>
    refine .failed ?_ (List.forall_mem_append.2 ⟨hall, hall'⟩) hown
    rwa [List.map_append, List.prefix_append_right_inj]

end

section
variable {σ α β : Type}

/-- **The resolver that writes down** what it is asked and what it answers. -/
def recording (resolve : Resolver σ) : Resolver (σ × List Inquiry) := fun name =>
  ExceptT.mk fun state =>
    let (answer, c) := (resolve name).run.run state.1
    (answer, (c, state.2 ++ [⟨name, answer⟩]))

/-- **One evaluation is the record of another:** it has the same answer and leaves the same state,
and what it has written down is a course of questions through some names. -/
def Recorded (names : List String) (m : Evaluation σ α) (m' : Evaluation (σ × List Inquiry) α) :
    Prop :=
  ∀ c before, ∃ asked, m'.run.run (c, before) =
    ((m.run.run c).1, ((m.run.run c).2, before ++ asked)) ∧ Course names asked (m.run.run c).1

variable {names names' : List String} {m : Evaluation σ α} {m' : Evaluation (σ × List Inquiry) α}

/-- What needs no state is its own record. -/
theorem recorded_of_answer (answer : Except Error α) (h : ∀ err, answer = .error err → err.IsOwn) :
    Recorded [] (ExceptT.mk (pure answer) : Evaluation σ α) (ExceptT.mk (pure answer)) := by
  intro c before
  refine ⟨[], by rw [List.append_nil]; rfl, ?_⟩
  change Course [] [] answer
  cases answer with
  | ok a => exact .through a rfl (by simp)
  | error err => exact .failed List.nil_prefix (by simp) (h err rfl)

/-- A result without questions is its own record. -/
theorem recorded_pure (a : α) : Recorded (σ := σ) [] (pure a) (pure a) := by
  refine recorded_of_answer (.ok a) fun err h => ?_
  cases h

/-- **Records go on one after the other.** -/
theorem Recorded.bind {f : α → Evaluation σ β} {f' : α → Evaluation (σ × List Inquiry) β}
    (h : Recorded names m m') (hf : ∀ a, Recorded names' (f a) (f' a)) :
    Recorded (names ++ names') (m >>= f) (m' >>= f') := by
  intro c before
  obtain ⟨asked, hrun, hcourse⟩ := h c before
  rw [Evaluation.run_bind, Evaluation.run_bind, hrun]
  generalize m.run.run c = result at hcourse
  obtain ⟨err | a, d⟩ := result
  · exact ⟨asked, rfl, hcourse.mono (List.prefix_append _ _)⟩
  · obtain ⟨more, hmore, hcourse'⟩ := hf a d (before ++ asked)
    refine ⟨asked ++ more, by simp only [hmore, List.append_assoc], ?_⟩
    exact .after hcourse.of_ok.1 hcourse.of_ok.2 hcourse'

/-- A record of what is done to the result. -/
theorem Recorded.map {f : α → β} (h : Recorded names m m') :
    Recorded names (do let a ← m; pure (f a)) (do let a ← m'; pure (f a)) := by
  rw [← List.append_nil names]
  exact h.bind fun a => recorded_pure (f a)

/-- A record of what is made of the result, if it fails only with an own error. -/
theorem Recorded.andThen {f : α → Except Error β} (h : Recorded names m m')
    (hf : ∀ a err, f a = .error err → err.IsOwn) :
    Recorded names (do let a ← m; ExceptT.mk (pure (f a)))
      (do let a ← m'; ExceptT.mk (pure (f a))) := by
  rw [← List.append_nil names]
  exact h.bind fun a => recorded_of_answer (f a) (hf a)

/-- A question is written down. -/
theorem recorded_resolve (resolve : Resolver σ) (n : String) :
    Recorded [n] (resolve n) (recording resolve n) := by
  intro c before
  refine ⟨[⟨n, ((resolve n).run.run c).1⟩], rfl, ?_⟩
  rcases (resolve n).run.run c with ⟨err | x, d⟩
  · have hnone : ∀ q ∈ ([] : List Inquiry), q.Answered := by simp
    exact .refused List.prefix_rfl hnone
  · exact .through x rfl (by simp [Inquiry.Answered])

/-- What an operator makes of two numbers is an own error if it is one. -/
theorem BinaryOp.isOwn_of_apply {op : BinaryOp} {x y : Float} {err : Error}
    (h : op.apply x y = .error err) : err.IsOwn :=
  .inl (BinaryOp.apply_eq_error_iff.1 h).1

/-- What a function makes of numbers is an own error if it is one. -/
theorem Function.isOwn_of_applyAll {f : Function} {xs : List Float} {err : Error}
    (h : f.applyAll xs = .error err) : err.IsOwn :=
  .inr ⟨f, (Function.applyAll_eq_error_iff.1 h).2⟩

namespace Expr

mutual

/-- **The questions of a tree are a course through its names.** -/
theorem recorded_evaluate (resolve : Resolver σ) : ∀ e : Expr,
    Recorded e.references (e.evaluate resolve) (e.evaluate (recording resolve))
  | number value => by
    rw [references, evaluate, evaluate]
    exact recorded_pure value
  | reference n => by
    rw [references, evaluate, evaluate]
    exact recorded_resolve resolve n
  | unary op e => by
    rw [references, evaluate, evaluate]
    exact (recorded_evaluate resolve e).map
  | binary op l r => by
    rw [references, evaluate, evaluate]
    exact (recorded_evaluate resolve l).bind fun _ =>
      (recorded_evaluate resolve r).andThen fun _ _ => op.isOwn_of_apply
  | call f args => by
    rw [references, evaluate, evaluate]
    exact (recorded_evaluateAll resolve args).andThen fun _ _ => f.isOwn_of_applyAll

/-- The questions of a list of trees are a course through the names in it. -/
theorem recorded_evaluateAll (resolve : Resolver σ) : ∀ es : List Expr,
    Recorded (referencesOfAll es) (evaluateAll resolve es) (evaluateAll (recording resolve) es)
  | [] => by
    rw [referencesOfAll, evaluateAll, evaluateAll]
    exact recorded_pure []
  | e :: es => by
    rw [referencesOfAll, evaluateAll, evaluateAll]
    exact (recorded_evaluate resolve e).bind fun _ => (recorded_evaluateAll resolve es).map

end

end Expr

/-- **What the evaluation of a text asks for,** from a state. -/
def inquiries (resolve : Resolver σ) (cs : List Char) (c : σ) : List Inquiry :=
  ((evaluateText (recording resolve) cs).run.run (c, [])).2.2

/-- The questions of a text that is parsed. -/
theorem course_of_parse (resolve : Resolver σ) {cs : List Char} {e : Expr} (h : parse cs = .ok e)
    (c : σ) : (evaluateText (recording resolve) cs).run.run (c, []) =
        (((evaluateText resolve cs).run.run c).1, ((evaluateText resolve cs).run.run c).2,
          inquiries resolve cs c) ∧
      Course (cellNames ((lexemes cs).items.map Lexeme.token)) (inquiries resolve cs c)
        ((evaluateText resolve cs).run.run c).1 := by
  obtain ⟨asked, hrun, hcourse⟩ := Expr.recorded_evaluate resolve e c []
  have htext : ∀ {τ : Type} (resolve' : Resolver τ),
      evaluateText resolve' cs = e.evaluate resolve' := fun resolve' => by rw [evaluateText, h]
  have hasked : inquiries resolve cs c = asked := by
    rw [inquiries, htext, hrun, List.nil_append]
  rw [hasked, htext, htext, hrun, ← cellNames_of_parse h]
  exact ⟨by rw [List.nil_append], hcourse⟩

/-- **References are asked for from left to right, once for each mention.** To write down the
questions changes neither the answer nor the state. If the text is no formula, nothing is asked for.
If it has a number, the names that were asked for are those of the text, from left to right, and
each was answered with a number. If it has an error, they are the first so many of these; either the
last of them was answered with this error and all before it with numbers, or all were answered with
numbers and the error is a zero divisor or a call without arguments. -/
theorem inquiries_of_evaluateText (resolve : Resolver σ) (cs : List Char) (c : σ) :
    let run := (evaluateText resolve cs).run.run c
    let asked := inquiries resolve cs c
    let names := cellNames ((lexemes cs).items.map Lexeme.token)
    (evaluateText (recording resolve) cs).run.run (c, []) = (run.1, run.2, asked) ∧
    (∀ fault, parse cs = .error fault → asked = [] ∧ run = (.error (.fault fault), c)) ∧
    (∀ x, run.1 = .ok x → asked.map Inquiry.name = names ∧ ∀ q ∈ asked, q.Answered) ∧
    (∀ e err, parse cs = .ok e → run.1 = .error err → asked.map Inquiry.name <+: names ∧
      ((∃ front n, asked = front ++ [⟨n, .error err⟩] ∧ ∀ q ∈ front, q.Answered) ∨
        (∀ q ∈ asked, q.Answered) ∧ err.IsOwn)) := by
  intro run asked names
  cases hparse : parse cs with
  | error fault =>
    have htext : ∀ {τ : Type} (resolve' : Resolver τ),
        evaluateText resolve' cs = throw (.fault fault) := fun resolve' => by
      rw [evaluateText, hparse]
    have hrun : run = (.error (.fault fault), c) := by
      simp only [run, htext]
      rfl
    have hasked : asked = [] := by
      simp only [asked, inquiries, htext]
      rfl
    refine ⟨?_, ?_, ?_, fun _ _ he => ?_⟩
    · rw [hrun, hasked, htext]
      rfl
    · rintro _ ⟨⟩
      exact ⟨hasked, hrun⟩
    · intro x hx
      rw [hrun] at hx
      cases hx
    · cases he
  | ok e =>
    obtain ⟨hrun, hcourse⟩ := course_of_parse resolve hparse c
    refine ⟨hrun, fun _ hfault => ?_, fun x hx => ?_, fun _ err _ herr => ?_⟩
    · cases hfault
    · have hthrough : Course names asked (.ok x) := hx ▸ hcourse
      exact hthrough.of_ok
    · have hstop : Course names asked (.error err) := herr ▸ hcourse
      exact hstop.of_error

end

/-- A resolver that answers some questions, each with how many there were before it, and refuses the
next one. -/
def rationed (answers : Nat) : Resolver Nat := fun name =>
  ExceptT.mk fun asked =>
    if asked < answers then (.ok (Float.ofNat asked), asked + 1)
    else (.error (.outOfRange name), asked)

/-- A sum with a call in it, of four names. -/
def fourNames : List Char := "a1 + mmax(B2, c3) * D4".toList

/-- `inquiries_of_evaluateText` of a text with four names. If four questions are answered, it has a
number and has asked for all of them; if two are, it ends with what it was answered to the third. -/
theorem inquiries_of_evaluateText_rationed :
    ((∃ x, ((evaluateText (rationed 4) fourNames).run.run 0).1 = .ok x) ∧
      (inquiries (rationed 4) fourNames 0).map Inquiry.name = ["A1", "B2", "C3", "D4"] ∧
      ∀ q ∈ inquiries (rationed 4) fourNames 0, q.Answered) ∧
    ((evaluateText (rationed 2) fourNames).run.run 0).1 = .error (.outOfRange "C3") ∧
    (inquiries (rationed 2) fourNames 0).map Inquiry.name = ["A1", "B2", "C3"] ∧
    ∃ front, inquiries (rationed 2) fourNames 0 = front ++ [⟨"C3", .error (.outOfRange "C3")⟩] ∧
      ∀ q ∈ front, q.Answered := by
  have hnames : cellNames ((lexemes fourNames).items.map Lexeme.token) =
      ["A1", "B2", "C3", "D4"] := by decide +kernel
  constructor
  · obtain ⟨-, -, hok, -⟩ := inquiries_of_evaluateText (rationed 4) fourNames 0
    obtain ⟨x, hx⟩ : ∃ x, ((evaluateText (rationed 4) fourNames).run.run 0).1 = .ok x := by
      with_unfolding_all exact ⟨_, rfl⟩
    exact ⟨⟨x, hx⟩, hnames ▸ hok x hx⟩
  · obtain ⟨-, -, -, herror⟩ := inquiries_of_evaluateText (rationed 2) fourNames 0
    obtain ⟨e, he⟩ : ∃ e, parse fourNames = .ok e := by
      with_unfolding_all exact ⟨_, rfl⟩
    have hrun : ((evaluateText (rationed 2) fourNames).run.run 0).1 =
        .error (.outOfRange "C3") := by
      with_unfolding_all rfl
    have hasked : (inquiries (rationed 2) fourNames 0).map Inquiry.name = ["A1", "B2", "C3"] := by
      decide +kernel
    refine ⟨hrun, hasked, ?_⟩
    rcases (herror e _ he hrun).2 with ⟨front, n, heq, hfront⟩ | ⟨-, hown⟩
    · rw [heq, List.map_append] at hasked
      obtain rfl : n = "C3" := by simpa using congrArg List.getLast? hasked
      exact ⟨front, heq, hfront⟩
    · rcases hown with hown | ⟨f, hown⟩ <;> cases hown

end Formula
end FormulaGrid
