import Mathlib.Data.List.TakeWhile
import RouteDocs.Module.Statement.Run
import RouteDocs.Proofs.Module.Run

namespace RouteDocs.Module

/-! ### What a step can give -/

section
variable {α β : Type} {x : Run α} {f : α → Run β} {P : β → Prop}

/-- The step gives only what fulfils a condition. -/
def Only (P : α → Prop) (x : Run α) : Prop := ∀ ⦃w a w'⦄, Gives x w a w' → P a

theorem Only.imp {P Q : α → Prop} (h : Only P x) (weaker : ∀ a, P a → Q a) : Only Q x :=
  fun _ a _ given => weaker a (h given)

theorem only_pure {P : α → Prop} {a : α} (h : P a) : Only P (pure a) := by
  intro w b w' given
  obtain ⟨rfl, -⟩ := (gives_pure a w).unique given
  exact h

theorem only_throw {P : α → Prop} (e : Object) : Only P (throw e : Run α) :=
  fun w _ _ given => absurd (fails_throw e w) given.not_fails

theorem Only.bind {Q : α → Prop} (first : Only Q x) (next : ∀ a, Q a → Only P (f a)) :
    Only P (x >>= f) := by
  intro w b w' given
  obtain ⟨a, u, before, behind⟩ := exists_of_bind given
  exact next a (first before) behind

/-- Whatever a step gives, only the next one counts. -/
theorem Only.after (next : ∀ a, Only P (f a)) : Only P (x >>= f) := by
  intro w b w' given
  obtain ⟨a, u, -, behind⟩ := exists_of_bind given
  exact next a behind

theorem only_fail {P : α → Prop} (path message : String) : Only P (fail path message : Run α) :=
  .after fun _ => only_throw _

theorem only_raise {P : α → Prop} (path : String) : Only P (raise path : Run α) :=
  .after fun _ => only_throw _

theorem Only.attempt {P : α → Prop} (h : Only P x) :
    Only (fun outcome => ∀ a, outcome = .ok a → P a) (attempt x) := by
  intro w outcome w' given a ended
  subst ended
  rcases ran : x.run w with ⟨e | b, u⟩
  · have raised := Fails.attempt (show Fails x w e u from ran)
    cases (given.unique raised).1
  · have reached := Gives.attempt (show Gives x w b u from ran)
    cases (given.unique reached).1
    exact h ran

theorem only_settle {P : α → Prop} {outcome : Except Object α}
    (h : ∀ a, outcome = .ok a → P a) : Only P (settle outcome) := by
  cases outcome with
  | ok a => exact only_pure (h a rfl)
  | error e => exact only_throw e

theorem Only.handling {P : α → Prop} (e : Object) (h : Only P x) : Only P (handling e x) :=
  .after fun _ => .after fun _ => h.attempt.bind fun _ fine => .after fun _ => only_settle fine

end

/-! ### Loops -/

section
variable {P : Signal → Prop}

theorem only_finally {run last : Run Signal} (first : Only P run) (second : Only P last) :
    Only P (finally_ run last) := by
  refine first.attempt.bind fun outcome fine => ?_
  cases outcome with
  | ok s =>
    refine second.bind fun other ended => ?_
    cases other with
    | done => exact only_pure (fine s rfl)
    | leave isBreak => exact only_pure ended
    | result o => exact only_pure ended
  | error e =>
    refine (second.handling e).bind fun other ended => ?_
    cases other with
    | done => exact only_throw e
    | leave isBreak => exact only_pure ended
    | result o => exact only_pure ended

theorem only_whileTrue {round : Run (Option Signal)} (h : Only (fun o => ∀ s ∈ o, P s) round)
    (n : Nat) : Only P (whileTrue round n) := by
  induction n with
  | zero => exact only_raise _
  | succ n ih =>
    refine h.bind fun o fine => ?_
    cases o with
    | none => exact ih
    | some s => exact only_pure (fine s rfl)

theorem only_overItems (h : Hooks) {round : Object → Run (Option Signal)}
    (fine : ∀ o, Only (fun s => ∀ s' ∈ s, P s') (round o)) (n : Nat) (cursor : Cursor) :
    Only (fun s => ∀ s' ∈ s, P s') (overItems h round n cursor) := by
  induction n generalizing cursor with
  | zero => exact only_raise _
  | succ n ih =>
    refine .after fun next => ?_
    cases next with
    | none => exact only_pure nofun
    | some item =>
      obtain ⟨o, rest⟩ := item
      refine (fine o).bind fun s ended => ?_
      cases s with
      | none => exact ih rest
      | some s => exact only_pure ended

end

/-! ### Places -/

namespace Place

/-- How statements in a place can end. -/
def allows (p : Place) : Signal → Prop
  | .done => True
  | .leave _ => p.inLoop = true
  | .result _ => p.canReturn = true

theorem allows_done (p : Place) : p.allows .done := trivial

theorem allows_deeper {p : Place} {n : Nat} {s : Signal} : (p.deeper n).allows s ↔ p.allows s := by
  cases s <;> rfl

/-- A loop takes what its body ends with, unless that is the result of a function. -/
theorem allows_afterRound {p : Place} {s : Signal} (h : p.loop.allows s) :
    ∀ s' ∈ s.afterRound?, p.allows s' := by
  intro s' ended
  match s, ended with
  | .leave true, rfl => exact trivial
  | .result o, rfl => exact h

/-- Outside of loops and functions statements can only run to their end. -/
theorem done_of_allows {p : Place} {s : Signal} (fine : p.allows s) (noLoop : p.inLoop = false)
    (noResult : p.canReturn = false) : s = .done := by
  cases s with
  | done => rfl
  | leave isBreak => cases noLoop.symm.trans fine
  | result o => cases noResult.symm.trans fine

theorem allows_of_handler {p : Place} {s : Signal} (h : (p.handler false).allows s) : p.allows s := by
  cases s <;> exact h

end Place

/-! ### Statements -/

namespace Survey

theorem isWell_append (a b : Survey) : (a ++ b).isWell = (a.isWell && b.isWell) := rfl

end Survey

namespace Frame
open Survey

theorem only_manage (f : Frame) {P : Signal → Prop} (usual : P .done) (manager : Object)
    (target : Option Expr) {body : Run Signal} (h : Only P body) :
    Only P (f.manage manager target body) := by
  refine .after fun entered => ?_
  refine Only.bind (Only.attempt (P := P) ?_) fun outcome fine => ?_
  · cases target with
    | none => exact h
    | some target => exact .after fun _ => h
  cases outcome with
  | ok s => exact .after fun _ => only_pure (fine s rfl)
  | error e =>
    refine .after fun settled => ?_
    cases settled with
    | true => exact only_pure usual
    | false => exact only_throw e

theorem only_withCaught (f : Frame) {P : Signal → Prop} (e : Object) (name : Option String)
    {body : Run Signal} (h : Only P body) : Only P (f.withCaught e name body) := by
  cases name with
  | none => exact h.handling e
  | some name =>
    exact .after fun _ => (h.handling e).attempt.bind fun _ fine => .after fun _ => only_settle fine

theorem only_throwRest {P : Signal → Prop} (usual : P .done) (isBare : Bool)
    (raised : List Object) (left : Option Object) : Only P (throwRest isBare raised left) := by
  unfold throwRest
  split
  · exact only_pure usual
  · exact only_throw _
  · split
    · exact only_throw _
    · exact .after fun _ => only_throw _
  · exact .after fun _ => only_throw _

theorem only_throwInContext {P : Signal → Prop} (e : Object) : Only P (throwInContext e) := by
  refine .after fun w => ?_
  cases w.handled with
  | none => exact .after fun _ => only_throw e
  | some context =>
    dsimp only
    split
    · exact only_throw e
    · exact .after fun _ => only_throw e

theorem only_throwObject (h : Hooks) {P : Signal → Prop} (o : Object) (cause : Option Object) :
    Only P (throwObject h o cause) := by
  refine .after fun e => ?_
  have last : Only P (throwInContext e) := only_throwInContext e
  cases cause with
  | none => exact last
  | some cause =>
    refine .after fun w => ?_
    split
    · exact .after fun _ => last
    · dsimp only
      split
      · exact .after fun _ => .after fun _ => .after fun _ => last
      · exact .after fun _ => .after fun _ => .after fun _ => last

theorem only_runManaged (f : Frame) {P : Signal → Prop} (usual : P .done)
    (items : List (Expr × Option Expr)) {body : Run Signal} (h : Only P body) :
    Only P (f.runManaged items body) := by
  induction items with
  | nil => exact h
  | cons item rest ih =>
    obtain ⟨e, target⟩ := item
    exact .after fun manager => only_manage f usual manager target ih

theorem only_handleGroup (f : Frame) {P : Signal → Prop} (usual : P .done) (e : Object)
    (isBare : Bool) (raised : List Object) (left : Option Object)
    (handlers : List (Option Expr × Option String × List Statement)) :
    Only P (f.handleGroup e isBare raised left handlers) := by
  induction handlers generalizing raised left with
  | nil => exact only_throwRest usual isBare raised _
  | cons handler rest ih =>
    obtain ⟨kind, name, body⟩ := handler
    cases kind with
    | none => exact ih raised left
    | some kind =>
      cases left with
      | none => exact ih raised none
      | some group =>
        refine .after fun kinds => .after fun w => ?_
        cases caughtClasses? w kinds with
        | none => exact only_fail _ _
        | some classes =>
          dsimp only
          split
          · exact only_fail _ _
          · refine .after fun parts => ?_
            obtain ⟨matched, left⟩ := parts
            cases matched with
            | none => exact ih raised (some group)
            | some matched =>
              refine .after fun outcome => ?_
              cases outcome with
              | ok s => exact ih raised left
              | error new => exact ih _ left

/-- A `try` statement ends as its parts do. -/
theorem only_guarded (f : Frame) {P : Signal → Prop} (usual : P .done) (isGroup : Bool)
    {body otherwise final : List Statement}
    {handlers : List (Option Expr × Option String × List Statement)}
    (ofBody : Only P (f.runAll body))
    (ofHandlers : isGroup = false → ∀ e, Only P (f.handle e handlers))
    (ofOtherwise : Only P (f.runAll otherwise)) (ofFinal : Only P (f.runAll final)) :
    Only P (f.run (.guarded isGroup body handlers otherwise final)) := by
  refine only_finally (ofBody.attempt.bind fun outcome fine => ?_) ofFinal
  cases outcome with
  | ok s =>
    cases s with
    | done => exact ofOtherwise
    | leave isBreak => exact only_pure (fine _ rfl)
    | result o => exact only_pure (fine _ rfl)
  | error e =>
    cases isGroup with
    | true =>
      refine .after fun w => ?_
      dsimp only
      split
      · exact .after fun _ => only_handleGroup f usual ..
      · exact .after fun _ => only_handleGroup f usual ..
    | false => exact ofHandlers rfl e

mutual

/-- A statement that stands where it can ends in a way that its place allows. -/
theorem run_ends (f : Frame) (p : Place) (s : Statement) (well : (s.survey p).isWell = true) :
    Only p.allows (f.run s) := by
  -- most statements end in the usual way, whatever they do before
  have usual : Only p.allows (pure .done) := only_pure p.allows_done
  cases s with
  | expression e => exact .after fun _ => usual
  | assign targets e => exact .after fun _ => .after fun _ => usual
  | augment target operator e => exact .after fun _ => usual
  | annotate target isBare type value =>
    cases value with
    | none => exact .after fun _ => usual
    | some e => exact .after fun _ => .after fun _ => .after fun _ => usual
  | function head decorators body =>
    refine .after fun _ => .after fun _ => ?_
    have defined (x : Run Object) : Only p.allows (do
        let o ← x
        f.bind head.name o
        return .done) := .after fun _ => .after fun _ => usual
    cases f.postponed with
    | true => exact .after fun _ => defined _
    | false => exact .after fun _ => .after fun _ => defined _
  | class_ name decorators bases named body =>
    exact .after fun _ => .after fun _ => .after fun _ => usual
  | pass => exact usual
  | return_ value =>
    simp only [Statement.survey, isWell_append, Bool.and_eq_true] at well
    exact .after fun _ => only_pure well.2
  | raise value cause =>
    cases value with
    | none =>
      refine .after fun w => ?_
      cases w.handled with
      | none => exact only_fail _ _
      | some e => exact only_throw e
    | some e =>
      cases cause with
      | none => exact .after fun _ => only_throwObject f.hooks _ _
      | some cause => exact .after fun _ => .after fun _ => only_throwObject f.hooks _ _
  | import_ names => exact .after fun _ => usual
  | importFrom level module names => exact .after fun _ => usual
  | importAll level module => exact .after fun _ => usual
  | branch condition yes no =>
    simp only [Statement.survey, isWell_append, Bool.and_eq_true] at well
    refine .after fun _ => .after fun holds => ?_
    cases holds with
    | true => exact runAll_ends f p yes well.1.2
    | false => exact runAll_ends f p no well.2
  | repeat_ condition body otherwise =>
    simp only [Statement.survey, isWell_append, Bool.and_eq_true] at well
    refine only_whileTrue (.after fun _ => .after fun holds => ?_) _
    cases holds with
    | true =>
      exact (runAll_ends f p.loop body well.1.1.2).bind fun s ended =>
        only_pure (Place.allows_afterRound ended)
    | false =>
      refine (runAll_ends f p otherwise well.1.2).bind fun s ended => only_pure ?_
      rintro s' ⟨⟩
      exact ended
  | loop isAsync target source body otherwise =>
    simp only [Statement.survey, isWell_append, Bool.and_eq_true] at well
    have round (o : Object) : Only (fun s => ∀ s' ∈ s, p.allows s') (do
        f.assign o target
        return (← f.runAll body).afterRound?) :=
      .after fun _ => (runAll_ends f p.loop body well.1.1.2).bind fun s ended =>
        only_pure (Place.allows_afterRound ended)
    refine .after fun _ => .after fun cursor =>
      (only_overItems f.hooks round _ cursor).bind fun s ended => ?_
    cases s with
    | none => exact runAll_ends f p otherwise well.1.2
    | some s => exact only_pure (ended s rfl)
  | managed isAsync items body =>
    simp only [Statement.survey, isWell_append, Bool.and_eq_true] at well
    have inside := runAll_ends f (p.deeper items.length) body well.1.2
    exact only_runManaged f p.allows_done items (inside.imp fun _ => Place.allows_deeper.mp)
  | guarded isGroup body handlers otherwise final =>
    simp only [Statement.survey, isWell_append, Bool.and_eq_true] at well
    obtain ⟨⟨⟨⟨wellBody, wellHandlers⟩, wellOtherwise⟩, wellFinal⟩, -⟩ := well
    have ofOwn (s : Signal) (fine : (if final.isEmpty then p else p.deeper 1).allows s) :
        p.allows s := by
      split at fine
      · exact fine
      · exact Place.allows_deeper.mp fine
    have ofBody : Only p.allows (f.runAll body) := by
      refine (runAll_ends f _ body wellBody).imp fun s fine => ?_
      split at fine
      · exact ofOwn s fine
      · exact ofOwn s (Place.allows_deeper.mp fine)
    exact only_guarded f p.allows_done isGroup ofBody
      (fun single e => (handle_ends f _ e handlers (single ▸ wellHandlers)).imp ofOwn)
      ((runAll_ends f _ otherwise wellOtherwise).imp ofOwn)
      ((runAll_ends f _ final wellFinal).imp ofOwn)
  | select subject cases =>
    simp only [Statement.survey, isWell_append, Bool.and_eq_true] at well
    exact .after fun o => choose_ends f p o cases well.2
  | delete targets => exact .after fun _ => usual
  | declare isGlobal names => exact usual
  | check condition message =>
    refine .after fun _ => .after fun holds => ?_
    cases holds with
    | true => exact usual
    | false =>
      cases message with
      | none => exact .after fun _ => .after fun _ => only_throw _
      | some e => exact .after fun _ => .after fun _ => .after fun _ => only_throw _
  | leave isBreak => exact only_pure well

/-- Statements end in a way that their place allows. -/
theorem runAll_ends (f : Frame) (p : Place) (body : List Statement)
    (well : (Statement.surveyAll p body).isWell = true) : Only p.allows (f.runAll body) := by
  cases body with
  | nil => exact only_pure p.allows_done
  | cons s ss =>
    simp only [Statement.surveyAll, isWell_append, Bool.and_eq_true] at well
    refine (run_ends f p s well.1).bind fun ended fine => ?_
    cases ended with
    | done => exact runAll_ends f p ss well.2
    | leave isBreak => exact only_pure fine
    | result o => exact only_pure fine

/-- So do the bodies of handlers. -/
theorem handle_ends (f : Frame) (p : Place) (e : Object)
    (handlers : List (Option Expr × Option String × List Statement))
    (well : (Statement.surveyHandlers p false handlers).isWell = true) :
    Only p.allows (f.handle e handlers) := by
  match handlers with
  | [] => exact only_throw e
  | (none, name, body) :: rest =>
    simp only [Statement.surveyHandlers, isWell_append, Bool.and_eq_true] at well
    have inside : Only p.allows (f.runAll body) :=
      (runAll_ends f (p.handler false) body well.1.2).imp fun _ => Place.allows_of_handler
    exact only_withCaught f e none inside
  | (some kind, name, body) :: rest =>
    simp only [Statement.surveyHandlers, isWell_append, Bool.and_eq_true] at well
    have inside : Only p.allows (f.runAll body) :=
      (runAll_ends f (p.handler false) body well.1.2).imp fun _ => Place.allows_of_handler
    refine .after fun caught => ?_
    cases caught with
    | true => exact only_withCaught f e name inside
    | false => exact handle_ends f p e rest well.2

/-- So do the bodies of cases. -/
theorem choose_ends (f : Frame) (p : Place) (o : Object)
    (cases : List (Pattern × Option Expr × List Statement))
    (well : (Statement.surveyCases p cases).isWell = true) : Only p.allows (f.choose o cases) := by
  match cases with
  | [] => exact only_pure p.allows_done
  | (pattern, condition, body) :: rest =>
    simp only [Statement.surveyCases, isWell_append, Bool.and_eq_true] at well
    have inside := runAll_ends f p body well.1.2
    have behind := choose_ends f p o rest well.2
    refine .after fun matched => ?_
    cases matched with
    | none => exact behind
    | some bound =>
      have chosen (holds : Bool) :
          Only p.allows (if holds then f.runAll body else f.choose o rest) := by
        cases holds with
        | true => exact inside
        | false => exact behind
      cases condition with
      | none => exact .after fun _ => .after chosen
      | some e => exact .after fun _ => .after fun _ => .after chosen

end

end Frame

/-! ### The statements of a module -/

namespace Statement

theorem isWell_of_mem {p : Place} {body : List Statement}
    (well : (surveyAll p body).isWell = true) {s : Statement} (here : s ∈ body) :
    (s.survey p).isWell = true := by
  induction body with
  | nil => cases here
  | cons first rest ih =>
    simp only [surveyAll, Survey.isWell_append, Bool.and_eq_true] at well
    rcases List.mem_cons.mp here with rfl | later
    · exact well.1
    · exact ih well.2 later

theorem mem_afterDocstring {body : List Statement} {s : Statement} (here : s ∈ body) :
    (∃ e, s = .expression e) ∨ s ∈ afterDocstring body := by
  unfold afterDocstring
  split
  · exact (List.mem_cons.mp here).imp_left fun same => ⟨_, same⟩
  · exact .inr here

/-- What a statement of a module is: a text at its start, a request for features, or a statement that
stands where it can. -/
theorem of_isModule {body : List Statement} (isModule : isModule body = true) {s : Statement}
    (here : s ∈ body) : (∃ e, s = .expression e) ∨ asksFeatures s = true ∨
      (s.survey (.top (postponesTypes body))).isWell = true := by
  refine (mem_afterDocstring here).imp_right fun behind => ?_
  have parts := List.takeWhile_append_dropWhile (p := asksFeatures) (l := afterDocstring body)
  have rest : (afterDocstring body).drop (featureRequests body).length =
      (afterDocstring body).dropWhile asksFeatures :=
    (congrArg (List.drop (featureRequests body).length) parts).symm.trans List.drop_left
  rw [← parts] at behind
  refine (List.mem_append.mp behind).imp List.mem_takeWhile_imp fun later => ?_
  simp only [Statement.isModule, Bool.and_eq_true, rest] at isModule
  exact isWell_of_mem isModule.1.2 later

end Statement

namespace Frame

/-- **The statements of a module run to their end**, unless one of them raises an exception. -/
theorem done_of_isModule {f : Frame} {body : List Statement}
    (isModule : Statement.isModule body = true) : Only (· = .done) (f.runAll body) := by
  have each (s : Statement) (here : s ∈ body) : Only (· = .done) (f.run s) := by
    rcases Statement.of_isModule isModule here with ⟨e, rfl⟩ | asks | well
    · exact .after fun _ => only_pure rfl
    · cases s with
      | importFrom level module names => exact .after fun _ => only_pure rfl
      | importAll level module => exact .after fun _ => only_pure rfl
      | _ => cases asks
    · exact (run_ends f _ s well).imp fun _ fine => Place.done_of_allows fine rfl rfl
  clear isModule
  induction body with
  | nil => exact only_pure rfl
  | cons s ss ih =>
    refine (each s List.mem_cons_self).bind fun ended fine => ?_
    subst fine
    exact ih fun s' later => each s' (List.mem_cons_of_mem s later)

/-- So do those of a class in it. -/
theorem done_of_class {f : Frame} {body inner : List Statement} {name : String}
    {decorators bases : List Expr} {named : List (Option String × Expr)}
    (isModule : Statement.isModule body = true)
    (here : .class_ name decorators bases named inner ∈ body) :
    Only (· = .done) (f.runAll inner) := by
  rcases Statement.of_isModule isModule here with ⟨e, other⟩ | asks | well
  · cases other
  · cases asks
  · simp only [Statement.survey, Survey.isWell_append, Bool.and_eq_true] at well
    exact (runAll_ends f _ inner well.2).imp fun _ fine => Place.done_of_allows fine rfl rfl

end Frame
end RouteDocs.Module
