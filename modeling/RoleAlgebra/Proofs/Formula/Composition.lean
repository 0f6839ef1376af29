import RoleAlgebra.Proofs.Formula.Moved
import RoleAlgebra.Proofs.Parser.Acceptance
import RoleAlgebra.Proofs.Token.Spans

namespace RoleAlgebra

open Grammar

/-- Two texts, each in parentheses, with an operator between them. -/
def joined (op : Operator) (s t : String) : String :=
  "(" ++ s ++ ") " ++ op.symbol.toString ++ " (" ++ t ++ ")"

theorem toList_joined (op : Operator) (s t : String) :
    (joined op s t).toList =
      ([] ++ '(' :: (s.toList ++ [')'])) ++ [' '] ++ [op.symbol] ++ [' '] ++
        '(' :: (t.toList ++ [')']) := by
  simp [joined]

theorem Operator.utf8Size_symbol (op : Operator) : op.symbol.utf8Size = 1 := by
  cases op <;> rfl

theorem tokenize_joined {s t : String} {scan scan' : Scan} (first : tokenize s = .ok scan)
    (second : tokenize t = .ok scan') (op : Operator) :
    ∃ whole opening closing sign opening' closing', tokenize (joined op s t) = .ok whole ∧
      opening.kind = .opening ∧ closing.kind = .closing ∧ sign.kind = .op op ∧
      opening'.kind = .opening ∧ closing'.kind = .closing ∧ whole.tokens =
        (opening :: (scan.tokens.map (·.moved 1) ++ [closing])) ++ sign ::
          (opening' :: (scan'.tokens.map (·.moved (s.utf8ByteSize + 6)) ++ [closing'])) := by
  have left := Divided.nil.group (divided_of_tokenize first)
  have signed := (left.space (c := ' ') rfl).sign (.op op) rfl
  have whole := (signed.space (c := ' ') rfl).group (divided_of_tokenize second)
  have start : Text.size ([] ++ '(' :: (s.toList ++ [')']) ++ [' '] ++ [op.symbol] ++ [' ']) + 1 =
      s.utf8ByteSize + 6 := by
    have parenthesis : '('.utf8Size = 1 ∧ ')'.utf8Size = 1 ∧ ' '.utf8Size = 1 := by decide
    simp only [Text.size_append, Text.size_cons, Text.size_nil, Text.size_toList, parenthesis,
      op.utf8Size_symbol]
    omega
  rw [Token.Kind.chars, start, ← toList_joined, List.append_assoc] at whole
  exact ⟨⟨_, _⟩, _, _, _, _, _, tokenize_eq_ok_iff_divided.2 ⟨whole, rfl⟩,
    rfl, rfl, rfl, rfl, rfl, rfl⟩

theorem parse_joined {s t : String} {f g : Formula} (first : Formula.parse s = .ok f)
    (second : Formula.parse t = .ok g) (op : Operator) :
    Formula.parse (joined op s t) = .ok (.combine op (f.moved (joined op s t) 1)
      (g.moved (joined op s t) (s.utf8ByteSize + 6))) := by
  obtain ⟨scan, tokenized, left⟩ := Formula.parse_eq_ok_iff.1 first
  obtain ⟨scan', tokenized', right⟩ := Formula.parse_eq_ok_iff.1 second
  obtain ⟨whole, opening, closing, sign, opening', closing', scanned, opens, closes, signs, opens',
    closes', tokens⟩ := tokenize_joined tokenized tokenized' op
  refine Formula.parse_eq_ok_iff.2 ⟨whole, scanned, ?_⟩
  rw [tokens]
  have leftGroup := Builds.group opens closes (left.moved (joined op s t) 1)
  have rightGroup := Builds.group opens' closes'
    (right.moved (joined op s t) (s.utf8ByteSize + 6))
  have tier : op ∈ operators op.precedence := mem_operators_iff.2 rfl
  exact (Builds.more signs tier (leftGroup.of_operand _) (rightGroup.of_operand _)).to_formula

section Evaluation

variable {σ : Type}

def textCalls (text : String) (resolver : Resolver σ) (state : σ) : List Reference :=
  (evaluateText text resolver.recording (state, [])).2.2

theorem evaluateText_of_parse {text : String} {f : Formula} (parsed : Formula.parse text = .ok f)
    (resolver : Resolver σ) (state : σ) :
    evaluateText text resolver state =
      ((f.evaluate resolver state).1.mapError .evaluation, (f.evaluate resolver state).2) := by
  rw [evaluateText, evaluateTextObserved, parsed]
  rfl

theorem evaluateText_of_error {text : String} {f : Formula} {resolver : Resolver σ}
    {state next : σ} {error : EvaluationError} (parsed : Formula.parse text = .ok f)
    (result : f.evaluate resolver state = (.error error, next)) :
    evaluateText text resolver state = (.error (.evaluation error), next) := by
  rw [evaluateText_of_parse parsed, result]
  rfl

theorem evaluateText_of_ok {text : String} {f : Formula} {resolver : Resolver σ}
    {state next : σ} {set : PermissionSet} (parsed : Formula.parse text = .ok f)
    (result : f.evaluate resolver state = (.ok set, next)) :
    evaluateText text resolver state = (.ok set, next) := by
  rw [evaluateText_of_parse parsed, result]
  rfl

theorem textCalls_of_parse {text : String} {f : Formula} (parsed : Formula.parse text = .ok f)
    (resolver : Resolver σ) (state : σ) :
    textCalls text resolver state = f.asked resolver state := by
  rw [textCalls, evaluateText_of_parse parsed, ← Formula.calls_eq_asked]
  rfl

theorem evaluateText_of_runs {text : String} {f : Formula} {resolver : Resolver σ} {state : σ}
    {asked : List Reference} {outcome : Evaluation.Outcome σ}
    (parsed : Formula.parse text = .ok f) (runs : f.Runs resolver state asked outcome) :
    evaluateText text resolver state = (outcome.1.mapError .evaluation, outcome.2) ∧
      textCalls text resolver state = asked := by
  rw [evaluateText_of_parse parsed, textCalls_of_parse parsed, runs.evaluate_eq, runs.asked_eq]
  exact ⟨rfl, rfl⟩

/-- The text that applies an operator to two texts means that operator applied to what they mean.
It makes the lookups of the first and then, unless one of these fails, those of the second, and
fails as the first of them to fail, with the place of the error moved. -/
theorem evaluateText_joined {s t : String} {f g : Formula} (first : Formula.parse s = .ok f)
    (second : Formula.parse t = .ok g) (op : Operator) (resolver : Resolver σ) (state : σ) :
    (∃ h, Formula.parse (joined op s t) = .ok h ∧ h.sameShape (.combine op f g) = true) ∧
    match evaluateText s resolver state with
    | (.error error, next) =>
      evaluateText (joined op s t) resolver state =
        (.error (error.moved (joined op s t) 1), next) ∧
      textCalls (joined op s t) resolver state = textCalls s resolver state
    | (.ok left, between) =>
      evaluateText (joined op s t) resolver state =
        (match evaluateText t resolver between with
        | (.error error, next) =>
          (.error (error.moved (joined op s t) (s.utf8ByteSize + 6)), next)
        | (.ok right, next) => (.ok (left.combine op right), next)) ∧
      textCalls (joined op s t) resolver state =
        textCalls s resolver state ++ textCalls t resolver between := by
  constructor
  · refine ⟨_, parse_joined first second op, ?_⟩
    rw [Formula.sameShape_iff, Formula.bare_combine, Formula.bare_combine, Formula.bare_moved,
      Formula.bare_moved]
  · have parsed := parse_joined first second op
    have left := (f.runs_evaluate resolver state).moved (joined op s t) 1
    rw [textCalls_of_parse first]
    cases leftResult : f.evaluate resolver state with
    | mk answer between =>
      rw [leftResult] at left
      cases answer with
      | error error =>
        rw [evaluateText_of_error first leftResult]
        exact evaluateText_of_runs parsed (.stopped left)
      | ok set =>
        have right := (g.runs_evaluate resolver between).moved (joined op s t) (s.utf8ByteSize + 6)
        obtain ⟨result, calls⟩ := evaluateText_of_runs parsed (.both left right)
        rw [evaluateText_of_ok first leftResult, result, calls]
        refine ⟨?_, by rw [textCalls_of_parse second]⟩
        cases rightResult : g.evaluate resolver between with
        | mk answer next =>
          cases answer with
          | error error =>
            rw [evaluateText_of_error second rightResult]
            rfl
          | ok right =>
            rw [evaluateText_of_ok second rightResult]
            rfl

theorem evaluateText_joined_unknown :
    let a : Reference := ⟨.named, "a"⟩
    let b : Reference := ⟨.named, "b"⟩
    let c : Reference := ⟨.file, "c"⟩
    let p : PermissionSet := ⟨["p"], List.pairwise_singleton _ _⟩
    let script : Script := .ofEntries [⟨a, [.ok p]⟩, ⟨b, [.ok .empty]⟩]
    let text := "(a-b) ^ (@c)"
    (evaluateText text Script.resolver script).1 =
        .error (.evaluation ⟨c, some ⟨text, 9, 2⟩, Script.unknown c⟩) ∧
      textCalls text Script.resolver script = [a, b, c] := by
  intro a b c p script text
  let f : Formula := .apply .diff (.ref a (some ⟨"a-b", 0, 1⟩)) (.ref b (some ⟨"a-b", 2, 1⟩))
    (some ⟨"a-b", 0, 3⟩)
  let g : Formula := .ref c (some ⟨"@c", 0, 2⟩)
  have first : Formula.parse "a-b" = .ok f := by decide
  have second : Formula.parse "@c" = .ok g := by decide
  have whole : joined .xor "a-b" "@c" = text := by decide
  have refs : f.refs = [a, b] := by simp [f]
  have answered : Script.resolver.answers f.refs script = [p, .empty].map .ok := by
    rw [refs]
    rfl
  have leftResult := Formula.evaluate_of_answered answered
  have leftText := evaluateText_of_ok first leftResult
  rw [refs] at leftText
  have rightResult : g.evaluate Script.resolver (Script.resolver.after [a, b] script) =
      (.error ⟨c, some ⟨"@c", 0, 2⟩, Script.unknown c⟩, Script.resolver.after [a, b, c] script) :=
    Formula.evaluate_ref_of_lookup rfl _
  have rightText := evaluateText_of_error second rightResult
  obtain ⟨-, both⟩ := evaluateText_joined first second .xor Script.resolver script
  simp only [leftText, rightText, whole] at both
  obtain ⟨result, calls⟩ := both
  refine ⟨congrArg Prod.fst result, ?_⟩
  rw [calls, textCalls_of_parse first, textCalls_of_parse second,
    Formula.asked_apply_of_left_ok (Formula.evaluate_ref_of_lookup rfl _)]
  rfl

end Evaluation
end RoleAlgebra
