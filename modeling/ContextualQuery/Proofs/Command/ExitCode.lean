import ContextualQuery.Command.Run
import ContextualQuery.Proofs.Parser.Acceptance
import ContextualQuery.Proofs.Rendering.LuceneRelations
import Mathlib

/-!
# Exit codes of the commands on queries

All commands on queries end with the same code, which depends on the configuration and the query alone:
whatever is printed, printing does not fail. A parsed query always has an expression, in every format.
Only the rendering as a Lucene query can still refuse an accepted query, and it does so exactly if a
relation anywhere within it has another comparitor than `=`.
-/

namespace ContextualQuery.Command

/-- The query of an action on a query. -/
def Action.query? : Action → Option String
  | .parse query | .expr query _ | .format query | .lucene query => some query
  | .check | .init _ _ => none

/-- The action renders a query for Lucene. -/
def Action.isLucene : Action → Bool
  | .lucene _ => true
  | _ => false

/-- The exit code that a query calls for under some options: 0 if it is accepted, 2 if it is not
supported, and 1 if it cannot be split into tokens or parsed. An accepted query with a relation other
than `=` is not supported for Lucene. -/
def queryCode (options : Options) (lucene : Bool) (query : String) : Nat :=
  match Tree.parseWith options query with
  | .ok tree => if lucene && tree.relationComparitors.any (· != "=") then 2 else 0
  | .error (.unsupported _) => 2
  | .error (.tokenize _) | .error (.parse _) => 1

variable {config : Config} {options : Options} {query : String} {tree : Tree}

/-- A command ends with the code that the query calls for, if what it makes of an accepted query does. -/
theorem code_onTree {answer : Tree → Answer} (lucene : Bool)
    (answered : ∀ tree, Tree.parseWith config.options query = .ok tree →
      (answer tree).status.code =
        if lucene && tree.relationComparitors.any (· != "=") then 2 else 0) :
    (onTree config query answer).status.code = queryCode config.options lucene query := by
  have outcome : (Reading.ofText config.options query).outcome = Tree.parseWith config.options query :=
    rfl
  simp only [onTree, Answer.logging, outcome, queryCode]
  cases read : Tree.parseWith config.options query with
  | ok tree => exact answered tree read
  | error error => cases error <;> rfl

/-- An accepted query has an expression, which is printed in any format. -/
theorem status_answerExpression (accepted : Tree.parseWith options query = .ok tree)
    (format : OutputFormat) : (answerExpression format tree).status = .success := by
  obtain ⟨chain, _, formed, rfl⟩ := exists_chain_of_parseWith accepted
  simp only [answerExpression, Answer.logging, formed.toExpression_tree]
  rfl

/-- An accepted query is refused for Lucene exactly if it has a relation other than `=`. -/
theorem status_answerLucene (accepted : Tree.parseWith options query = .ok tree) :
    (answerLucene tree).status =
      if tree.relationComparitors.any (· != "=") then .unsupported else .success := by
  obtain ⟨chain, _, formed, rfl⟩ := exists_chain_of_parseWith accepted
  rw [answerLucene]
  cases rendered : chain.tree.toLucene with
  | ok text =>
    have equals := formed.asksFor.exists_toLucene_iff.mp ⟨text, rendered⟩
    have noOther : chain.tree.relationComparitors.any (· != "=") = false := by simpa using equals
    rw [noOther]
    rfl
  | error error =>
    have other : chain.tree.relationComparitors.any (· != "=") = true := by
      by_contra noOther
      have equals : ∀ comparitor ∈ chain.tree.relationComparitors, comparitor = "=" := by
        simpa using noOther
      obtain ⟨text, found⟩ := formed.asksFor.exists_toLucene_iff.mpr equals
      simp [rendered] at found
    rw [other]
    rfl

/-- A command on a query ends with the code that the query calls for under the configuration. -/
theorem code_answerWith (place : Config.Place) (config : Config) {action : Action}
    (asked : action.query? = some query) :
    (answerWith place config action).status.code =
      queryCode config.options action.isLucene query := by
  cases action with
  | parse text =>
    obtain rfl := Option.some.inj asked
    exact code_onTree false fun tree accepted => rfl
  | expr text format? =>
    obtain rfl := Option.some.inj asked
    apply code_onTree false
    intro tree accepted
    rw [status_answerExpression accepted]
    rfl
  | format text =>
    obtain rfl := Option.some.inj asked
    exact code_onTree false fun tree accepted => rfl
  | lucene text =>
    obtain rfl := Option.some.inj asked
    apply code_onTree true
    intro tree accepted
    rw [status_answerLucene accepted, Bool.true_and]
    split <;> rfl
  | check => simp [Action.query?] at asked
  | init global force => simp [Action.query?] at asked

/-- A run of a command on a query ends with code 3 if the configuration cannot be loaded, and otherwise
with the code that the query calls for, which is the same for all commands but the rendering for
Lucene. -/
theorem code_run (place : Config.Place) (arguments : List String) (invocation : Invocation)
    (query : String) (understood : Request.ofArguments arguments = .run invocation)
    (asked : invocation.action.query? = some query) :
    (run place arguments).status.code =
      match configFor place invocation.config? with
      | .error _ => 3
      | .ok config => queryCode config.options invocation.action.isLucene query := by
  obtain ⟨config?, verbosity, action⟩ := invocation
  have noInit : ∀ global force, action ≠ .init global force := by
    rintro global force rfl
    simp [Action.query?] at asked
  rw [run, understood]
  change (Invocation.run place _).1.status.code = _
  rw [Invocation.run]
  split
  case h_1 global force same => exact absurd same (noInit global force)
  case h_2 =>
    dsimp only
    cases configFor place config? with
    | error error => rfl
    | ok config => exact code_answerWith place config asked

/-- Without settings files, a query with another relation than `=` in a group is accepted, and not
supported for Lucene alone. Under a settings file that enables no comparitor it is not read at all. -/
theorem code_run_group :
    let place : Config.Place := { files := FileSystem.empty, working := [], home? := none }
    let broken : Config.Place :=
      { files := ⟨[(["q"], .directory),
          (["q", ".cql.toml"], .file "parser.comparitors = []".toUTF8)]⟩
        working := ["q"]
        home? := none }
    (run place ["lucene", "c or (a any b)"]).status.code = 2 ∧
      (run place ["expr", "--json", "c or (a any b)"]).status.code = 0 ∧
      (run broken ["expr", "--json", "c or (a any b)"]).status.code = 3 := by
  intro place broken
  let group : Clause := .group (.indexed ⟨"a"⟩ ⟨"any"⟩ ⟨"b"⟩) []
  let chain : Chain := ⟨.word ⟨"c"⟩, [(⟨"or"⟩, group)]⟩
  have lucene : Request.ofArguments ["lucene", "c or (a any b)"] =
      .run ⟨none, 0, .lucene "c or (a any b)"⟩ := by decide +kernel
  have expr : Request.ofArguments ["expr", "--json", "c or (a any b)"] =
      .run ⟨none, 0, .expr "c or (a any b)" (some .json)⟩ := by decide +kernel
  have loaded : configFor place none = .ok Config.standard := by cbv
  have formed : chain.Formed Config.standard.options := by decide +kernel
  have split : Token.tokenize "c or (a any b)" = .ok chain.tokens := by cbv
  have accepted := parseWith_of_chain split formed
  refine ⟨?_, ?_, ?_⟩
  · rw [code_run place _ _ "c or (a any b)" lucene rfl, loaded]
    dsimp only
    rw [queryCode, accepted]
    rfl
  · rw [code_run place _ _ "c or (a any b)" expr rfl, loaded]
    dsimp only
    rw [queryCode, accepted]
    rfl
  · have notLoaded : (configFor broken none).isOk = false := by decide +kernel
    rw [code_run broken _ _ "c or (a any b)" expr rfl]
    dsimp only
    cases failed : configFor broken none with
    | error error => rfl
    | ok config => simp [failed, Except.isOk, Except.toBool] at notLoaded

end ContextualQuery.Command
