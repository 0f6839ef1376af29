import RoleAlgebra.CommandLine.Run
import RoleAlgebra.Proofs.World.Logged

namespace RoleAlgebra.CommandLine

variable {world : World} {decoders : Decoders} {settings : Settings} {f : Formula}

def answer (out : OutputFormat) :
    Except EvaluationError PermissionSet → Except Report String
  | .ok set => .ok (set.render out)
  | .error error => .error ⟨"failed to evaluate formula", error.diagnostic⟩

theorem diagnostic_of_answer {out : OutputFormat} {result : Except EvaluationError PermissionSet}
    {report : Report} (failed : answer out result = .error report) :
    report.diagnostic.message = "failed to evaluate formula" ∧
      ∃ error, result = .error error ∧
        report.diagnostic.sources = error.message :: error.sources := by
  cases result with
  | ok set => cases failed
  | error error =>
    obtain rfl := Except.error.inj failed
    exact ⟨rfl, error, rfl, rfl⟩

theorem execute_of_error {error : ParseError}
    (failed : Formula.parse settings.formula = .error error) (world : World)
    (decoders : Decoders) :
    execute world decoders settings =
      (.error ⟨"failed to parse formula", error.diagnostic⟩, [.parsing settings.formula]) := by
  rw [execute, failed]

theorem execute_tree (parsed : Formula.parse settings.formula = .ok f)
    (tree : settings.tree = true) (world : World) (decoders : Decoders) :
    execute world decoders settings = (.ok (f.outline "|"), [.parsing settings.formula]) := by
  simp only [execute, parsed, tree, if_true]

theorem evaluate_eq (world : World) (decoders : Decoders) (settings : Settings) (f : Formula)
    (log : Log) :
    evaluate world decoders settings f log =
      (world.value decoders settings.program f,
        (world.logged decoders settings.debug
          (world.steps decoders settings.program f)).reverse ++ log) := by
  have observed := (world.traces_steps decoders settings.program f).observed
    (world.resolver_tells decoders settings.program)
  cases debug : settings.debug with
  | false =>
    simp only [evaluate, debug]
    exact observed (fun _ => []) log
  | true =>
    simp only [evaluate, debug, if_true]
    exact observed (fun step => [.step step]) log

theorem execute_evaluate (settings : Settings) (parsed : Formula.parse settings.formula = .ok f)
    (tree : settings.tree = false) (world : World) (decoders : Decoders) :
    execute world decoders settings =
      (answer settings.out (world.value decoders settings.program f),
        (.parsing settings.formula :: world.logged decoders settings.debug
          (world.steps decoders settings.program f)).reverse) := by
  simp only [execute, parsed, tree, evaluate_eq, List.reverse_cons]
  cases world.value decoders settings.program f <;> rfl

/-- The options of a run do not show in its result. A formula that does not parse, or whose tree is
asked for, has nothing looked up, whatever the world and the other options are. Otherwise the run
looks up the leaves in order, up to the first that fails; debugging it adds nothing but the lines of
the steps, each leaf's right before its lookup. -/
theorem execute_flags_independent (world : World) (decoders : Decoders) (settings : Settings) :
    (∀ error, Formula.parse settings.formula = .error error →
      ∃ report, execute world decoders settings = (.error report, [.parsing settings.formula]) ∧
        report.failure = error.diagnostic ∧
        report.diagnostic.message = "failed to parse formula" ∧
        report.diagnostic.sources = [error.message]) ∧
    LogEvent.message (.parsing settings.formula) = "parsing formula" ∧
    ∀ f, Formula.parse settings.formula = .ok f →
      (settings.tree = true →
        ∀ (world' : World) (decoders' : Decoders) (settings' : Settings),
          settings'.words = settings.words → settings'.tree = true →
          execute world' decoders' settings' =
            (.ok (f.outline "|"), [.parsing settings.formula])) ∧
      (settings.tree = false →
        let reached := world.reached decoders settings.program f.refs
        let plain := execute world decoders { settings with debug := false }
        let traced := execute world decoders { settings with debug := true }
        traced.1 = plain.1 ∧
        (∀ report, plain.1 = .error report →
          report.diagnostic.message = "failed to evaluate formula" ∧
          ∃ error, (f.evaluate (world.resolver decoders settings.program) []).1 = .error error ∧
            report.diagnostic.sources = error.message :: error.sources) ∧
        traced.2.filter (·.target ≠ "permcalc_core::evaluator::trace") = plain.2 ∧
        plain.2.reverse.filter (·.message = "resolving role") = reached.map .resolving ∧
        traced.2.reverse.filterMap LogEvent.leaf? = f.leaves.take reached.length ∧
        (∀ before event after, traced.2.reverse = before ++ event :: after →
          event.message = "resolving role" →
          ∃ reference place?, event = .resolving reference ∧
            before.getLast? = some (.step (.lookup reference place?))) ∧
        ∀ before reference place? after,
          traced.2.reverse = before ++ .step (.lookup reference place?) :: after →
          after.head? = some (.resolving reference)) := by
  refine ⟨fun error failed => ⟨_, execute_of_error failed world decoders, rfl, rfl, rfl⟩, rfl, ?_⟩
  intro f parsed
  constructor
  · intro _ world' decoders' settings' words tree'
    have same : settings'.formula = settings.formula := congrArg (" ".intercalate ·) words
    rw [← same] at parsed ⊢
    exact execute_tree parsed tree' world' decoders'
  · intro tree reached plain traced
    let value := world.value decoders settings.program f
    let steps := world.steps decoders settings.program f
    have plainRun : plain = (answer settings.out value,
        (.parsing settings.formula :: world.logged decoders false steps).reverse) :=
      execute_evaluate { settings with debug := false } parsed tree world decoders
    have tracedRun : traced = (answer settings.out value,
        (.parsing settings.formula :: world.logged decoders true steps).reverse) :=
      execute_evaluate { settings with debug := true } parsed tree world decoders
    have announced : Announced traced.2.reverse := by
      rw [tracedRun, List.reverse_reverse]
      exact (Announced.single rfl).run world decoders steps
    refine ⟨by rw [plainRun, tracedRun], ?_, ?_, ?_, ?_, ?_, ?_⟩
    · intro report failed
      rw [plainRun] at failed
      rw [world.evaluate_value decoders settings.program f []]
      exact diagnostic_of_answer failed
    · rw [plainRun, tracedRun, List.filter_reverse, List.filter_cons_of_pos rfl,
        World.filter_logged]
    · rw [plainRun, List.reverse_reverse, LogEvent.filter_message, List.filterMap_cons_none rfl,
        World.resolved?_logged]
      exact congrArg _ (world.reached_eq_steps decoders settings.program f)
    · rw [tracedRun, List.reverse_reverse, List.filterMap_cons_none rfl, World.leaf?_logged]
      exact world.leaves_steps decoders settings.program f
    · intro before event after split lookup
      rw [split] at announced
      refine announced.exists_line lookup ?_
      rintro rfl
      -- the first event is that of the formula
      rw [tracedRun, List.reverse_reverse] at split
      cases split
      have other : "parsing formula" ≠ "resolving role" := by decide
      exact other lookup
    · intro before reference place? after split
      rw [split] at announced
      exact announced.head?_after

theorem execute_flags_independent_unreached :
    let role : Role := ⟨"r", ["p"], by decide⟩
    let decoders : Decoders :=
      ⟨fun _ => .ok role.toValue, fun _ => .error ⟨"expected value at line 1 column 1", []⟩⟩
    let world : World :=
      ⟨fun _ => .ok [], fun _ _ => .notStarted ⟨"No such file or directory (os error 2)", []⟩⟩
    let text := "@x - y * z"
    let settings : Settings := ⟨false, false, .text, "gcloud", ["@x", "- y * z"]⟩
    (∃ report, execute world decoders ⟨true, true, .json, "gcloud", ["@x", "-"]⟩ =
          (.error report, [.parsing "@x -"]) ∧
        report.diagnostic.message = "failed to parse formula" ∧
        report.diagnostic.sources = ["unexpected end of formula, expected a role name, " ++
          "`@` followed by a file path, or `(`"]) ∧
      (∀ world' decoders', execute world' decoders' { settings with tree := true } =
        (.ok "diff_expr\n|file_expr\tx\n|and_expr\n||role_expr\ty\n||role_expr\tz\n",
          [.parsing text])) ∧
      (execute world decoders settings).2.reverse.filter (·.message = "resolving role") =
        [.resolving ⟨.file, "x"⟩, .resolving ⟨.named, "y"⟩] ∧
      (execute world decoders { settings with debug := true }).2.reverse.filterMap LogEvent.leaf? =
        [⟨⟨.file, "x"⟩, some ⟨text, 0, 2⟩⟩, ⟨⟨.named, "y"⟩, some ⟨text, 5, 1⟩⟩] := by
  intro role decoders world text settings
  let product : Formula := .apply .and (.ref ⟨.named, "y"⟩ (some ⟨text, 5, 1⟩))
    (.ref ⟨.named, "z"⟩ (some ⟨text, 9, 1⟩)) (some ⟨text, 5, 5⟩)
  let f : Formula := .apply .diff (.ref ⟨.file, "x"⟩ (some ⟨text, 0, 2⟩)) product
    (some ⟨text, 0, 10⟩)
  have parsed : Formula.parse settings.formula = .ok f := by decide
  have failed : Formula.parse (Settings.formula ⟨true, true, .json, "gcloud", ["@x", "-"]⟩) =
      .error ⟨.unexpectedEnd .operand, "@x -", 4, 0⟩ := by decide
  have outlined : f.outline "|" =
      "diff_expr\n|file_expr\tx\n|and_expr\n||role_expr\ty\n||role_expr\tz\n" := by
    simp [f, product, Formula.outline, Formula.nodes, Formula.Node.line, Formula.Label.line,
      Origin.rule, Operator.rule, String.join, List.replicate]
  have reached : world.reached decoders "gcloud" f.refs = [⟨.file, "x"⟩, ⟨.named, "y"⟩] := by
    have found : world.permissions decoders "gcloud" ⟨.file, "x"⟩ = .ok role.set := by
      simp only [World.permissions, World.lookup_file, world, RoleFile.read, RoleFile.tryFormats,
        RoleFile.Format.all, RoleFile.Format.read, RoleFile.ofDocument, decoders,
        Role.ofValue_toValue]
      rfl
    have refs : f.refs = [⟨.file, "x"⟩, ⟨.named, "y"⟩, ⟨.named, "z"⟩] := by simp [f, product]
    rw [refs, World.reached, found]
    rfl
  have leaves : f.leaves.take 2 =
      [⟨⟨.file, "x"⟩, some ⟨text, 0, 2⟩⟩, ⟨⟨.named, "y"⟩, some ⟨text, 5, 1⟩⟩] := by
    simp [f, product]
  refine ⟨?_, ?_, ?_, ?_⟩
  · obtain ⟨report, run, -, message, sources⟩ :=
      (execute_flags_independent world decoders _).1 _ failed
    exact ⟨report, run, message, sources⟩
  · intro world' decoders'
    rw [← outlined]
    exact ((execute_flags_independent world decoders { settings with tree := true }).2.2 f
      parsed).1 rfl world' decoders' { settings with tree := true } rfl rfl
  · obtain ⟨-, -, -, resolved, -⟩ :=
      ((execute_flags_independent world decoders settings).2.2 f parsed).2 rfl
    exact resolved.trans (congrArg _ reached)
  · obtain ⟨-, -, -, -, traced, -⟩ :=
      ((execute_flags_independent world decoders settings).2.2 f parsed).2 rfl
    have count : (world.reached decoders settings.program f.refs).length = 2 :=
      congrArg List.length reached
    rw [count, leaves] at traced
    exact traced

end RoleAlgebra.CommandLine
