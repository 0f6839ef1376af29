import Mathlib.Data.List.Chain
import RoleAlgebra.Proofs.Evaluation.Logged
import RoleAlgebra.Proofs.World.Consultation

/-!
What stands in the log of an evaluation. A lookup logs that it is made, and then what the world is
asked (`World.resolver_tells`). If the steps are logged too, the line of a leaf stands right before
the lookup that it announces, and lines and lookups stand nowhere else (`Announced.run`).
-/

namespace RoleAlgebra

namespace LogEvent

def resolved? : LogEvent → Option Reference
  | resolving reference => some reference
  | _ => none

def leaf? : LogEvent → Option Formula.Leaf
  | step taken => taken.leaf?
  | _ => none

theorem eq_of_resolved? {event : LogEvent} {reference : Reference}
    (resolved : event.resolved? = some reference) : event = .resolving reference := by
  cases event with
  | resolving other =>
    obtain rfl := Option.some.inj resolved
    rfl
  | parsing | reading | describing | step => cases resolved

/-- No other event is taken for that of a lookup. -/
theorem message_eq_iff (event : LogEvent) :
    event.message = "resolving role" ↔ event.resolved?.isSome := by
  -- the other messages differ from it in their first or third character
  cases event with
  | resolving reference => exact iff_of_true rfl rfl
  | parsing formula =>
    have other : "parsing formula" ≠ "resolving role" := by decide
    exact iff_of_false other Bool.false_ne_true
  | reading format path =>
    have other : "read role from " ++ format.name ++ " file: " ++ path ≠ "resolving role" := by
      intro same
      have third := congrArg (·.toList[2]?) same
      simp at third
    exact iff_of_false other Bool.false_ne_true
  | describing role =>
    have other : "gcloud iam roles describe " ++ role ≠ "resolving role" := by
      intro same
      have first := congrArg (·.toList.head?) same
      simp at first
    exact iff_of_false other Bool.false_ne_true
  | step taken =>
    have other : taken.shown ≠ "resolving role" := by
      intro same
      have first := congrArg (·.toList.head?) same
      cases place : taken.place? <;> simp [Step.shown, Step.shownPlace, place] at first
    exact iff_of_false other Bool.false_ne_true

theorem filter_message (events : List LogEvent) :
    events.filter (·.message = "resolving role") = (events.filterMap resolved?).map resolving := by
  induction events with
  | nil => rfl
  | cons event events ih =>
    cases lookup : event.resolved? with
    | none =>
      have other : event.message ≠ "resolving role" := by
        rw [Ne, message_eq_iff, lookup]
        exact Bool.false_ne_true
      rw [List.filter_cons, if_neg (mt of_decide_eq_true other), List.filterMap_cons_none lookup,
        ih]
    | some reference =>
      obtain rfl := eq_of_resolved? lookup
      have here : (resolving reference).message = "resolving role" := rfl
      rw [List.filter_cons, if_pos (decide_eq_true here), List.filterMap_cons_some lookup,
        List.map_cons, ih]

theorem eq_of_leaf? {event : LogEvent} {leaf : Formula.Leaf} (line : event.leaf? = some leaf) :
    event = .step (.lookup leaf.reference leaf.place?) := by
  cases event with
  | step taken =>
    cases taken with
    | lookup reference place? =>
      obtain rfl := Option.some.inj line
      rfl
    | apply => cases line
  | parsing | resolving | reading | describing => cases line

end LogEvent

namespace World

variable (world : World) (decoders : Decoders) (program : String)

def details (reference : Reference) : List LogEvent :=
  match reference.origin with
  | .named => [.describing reference.id]
  | .file => (RoleFile.read decoders reference.id (world.content reference.id)).tried.map
      fun format => .reading format reference.id

def said (reference : Reference) : List LogEvent :=
  .resolving reference :: world.details decoders reference

theorem resolver_tells : (world.resolver decoders program).Tells
    (world.permissions decoders program) (world.said decoders) := by
  intro reference log
  refine Prod.ext (world.lookup_permissions decoders program reference log) ?_
  obtain ⟨origin, id⟩ := reference
  cases origin with
  | named => rfl
  | file =>
    change (world.lookup decoders program ⟨.file, id⟩ log).2 = _
    rw [lookup_file, said, details, List.reverse_cons, List.append_assoc]
    rfl

theorem forall_mem_details {P : LogEvent → Prop} (reading : ∀ format path, P (.reading format path))
    (describing : ∀ role, P (.describing role)) (reference : Reference) :
    ∀ event ∈ world.details decoders reference, P event := by
  obtain ⟨origin, id⟩ := reference
  cases origin with
  | named => exact List.forall_mem_singleton.2 (describing id)
  | file =>
    intro event member
    obtain ⟨format, -, rfl⟩ := List.mem_map.1 member
    exact reading format id

def value (f : Formula) : Except EvaluationError PermissionSet :=
  (f.evaluate (.silent (world.permissions decoders program)) ()).1

def steps (f : Formula) : List Step :=
  f.steps (.silent (world.permissions decoders program)) ()

theorem traces_steps (f : Formula) :
    f.Traces (.silent (world.permissions decoders program)) () (world.steps decoders program f)
      (world.value decoders program f, ()) :=
  f.traces_evaluate _ _

theorem evaluate_value (f : Formula) (log : Log) :
    (f.evaluate (world.resolver decoders program) log).1 = world.value decoders program f :=
  congrArg Prod.fst ((world.traces_steps decoders program f).observed
    (world.resolver_tells decoders program) (fun _ => []) log)

/-- What a step leaves in the log. Its own line is part of that if the run is debugged. -/
def loggedAt (debug : Bool) (taken : Step) : List LogEvent :=
  (if debug then [.step taken] else []) ++ taken.told (world.said decoders)

def logged (debug : Bool) (steps : List Step) : List LogEvent :=
  steps.flatMap (world.loggedAt decoders debug)

theorem reached_eq_steps (f : Formula) :
    ((world.steps decoders program f).filterMap Step.leaf?).map (·.reference) =
      world.reached decoders program f.refs :=
  ((world.traces_steps decoders program f).runs.of_silent
    (world.resolver_tells decoders program) []).asked_eq_reached

theorem leaves_steps (f : Formula) :
    (world.steps decoders program f).filterMap Step.leaf? =
      f.leaves.take (world.reached decoders program f.refs).length := by
  have first := List.prefix_iff_eq_take.1 (world.traces_steps decoders program f).leaves
  rw [← reached_eq_steps, List.length_map]
  exact first

end World

/-- Of two neighbours, the first is the line of a leaf exactly if the second is its lookup. -/
def LogEvent.Announces (first second : LogEvent) : Prop :=
  second.resolved? = first.leaf?.map (·.reference)

/-- Events in order of which each lookup comes right after the line of its leaf, and each such line
right before a lookup. -/
structure Announced (events : List LogEvent) : Prop where
  neighbours : events.IsChain LogEvent.Announces
  closed : ∀ last ∈ events.getLast?, last.leaf? = none

namespace Announced

variable {events : List LogEvent} (world : World) (decoders : Decoders)

theorem append (announced : Announced events) {more : List LogEvent} (next : Announced more)
    (opens : ∀ first ∈ more.head?, first.resolved? = none) : Announced (events ++ more) := by
  refine ⟨List.isChain_append.2 ⟨announced.neighbours, next.neighbours, ?_⟩, ?_⟩
  · intro last final first head
    rw [LogEvent.Announces, opens first head, announced.closed last final]
    rfl
  · intro last final
    rw [List.getLast?_append] at final
    cases ends : more.getLast? with
    | none =>
      rw [ends] at final
      exact announced.closed last final
    | some event =>
      rw [ends] at final
      exact next.closed last (ends.trans final)

theorem single {event : LogEvent} (plain : event.leaf? = none) : Announced [event] := by
  refine ⟨.singleton event, ?_⟩
  intro last final
  obtain rfl : event = last := by simpa using final
  exact plain

theorem of_plain (plain : ∀ event ∈ events, event.resolved? = none ∧ event.leaf? = none) :
    Announced events := by
  induction events with
  | nil => exact ⟨.nil, by simp⟩
  | cons event events ih =>
    obtain ⟨here, later⟩ := List.forall_mem_cons.1 plain
    refine (single here.2).append (ih later) ?_
    intro first head
    exact (later first (List.mem_of_head? head)).1

theorem step (taken : Step) : Announced (world.loggedAt decoders true taken) := by
  cases taken with
  | apply op left right place? => exact single rfl
  | lookup reference place? =>
    have plain : ∀ event ∈ world.details decoders reference,
        event.resolved? = none ∧ event.leaf? = none :=
      world.forall_mem_details decoders (fun _ _ => ⟨rfl, rfl⟩) (fun _ => ⟨rfl, rfl⟩) reference
    have lookup : Announced (world.said decoders reference) := by
      refine (single rfl).append (of_plain plain) ?_
      intro first head
      exact (plain first (List.mem_of_head? head)).1
    exact ⟨List.isChain_cons_cons.2 ⟨rfl, lookup.neighbours⟩, lookup.closed⟩

theorem run (announced : Announced events) (steps : List Step) :
    Announced (events ++ world.logged decoders true steps) := by
  induction steps generalizing events with
  | nil =>
    rw [World.logged, List.flatMap_nil, List.append_nil]
    exact announced
  | cons taken steps ih =>
    have opens : ∀ first ∈ (world.loggedAt decoders true taken).head?,
        first.resolved? = none := by
      intro first head
      obtain rfl : .step taken = first := Option.some.inj head
      rfl
    have next := ih (announced.append (step world decoders taken) opens)
    rw [List.append_assoc] at next
    exact next

section Split

variable {before after : List LogEvent} {reference : Reference} {place? : Option Location}

theorem getLast?_before (announced : Announced (before ++ .resolving reference :: after))
    (nonempty : before ≠ []) :
    ∃ place?, before.getLast? = some (.step (.lookup reference place?)) := by
  obtain ⟨-, -, neighbours⟩ := List.isChain_append.1 announced.neighbours
  have last := List.getLast?_eq_some_getLast nonempty
  have line := neighbours _ last _ rfl
  obtain ⟨leaf, known, rfl⟩ := Option.map_eq_some_iff.1 line.symm
  exact ⟨leaf.place?, last.trans (congrArg some (LogEvent.eq_of_leaf? known))⟩

/-- What is taken for a lookup, and is not the first event, is one, and stands right behind the line
of its leaf. -/
theorem exists_line {event : LogEvent} (announced : Announced (before ++ event :: after))
    (lookup : event.message = "resolving role") (nonempty : before ≠ []) :
    ∃ reference place?, event = .resolving reference ∧
      before.getLast? = some (.step (.lookup reference place?)) := by
  obtain ⟨reference, resolved⟩ :=
    Option.isSome_iff_exists.1 ((LogEvent.message_eq_iff event).1 lookup)
  obtain rfl := LogEvent.eq_of_resolved? resolved
  obtain ⟨place?, last⟩ := announced.getLast?_before nonempty
  exact ⟨reference, place?, rfl, last⟩

theorem head?_after
    (announced : Announced (before ++ .step (.lookup reference place?) :: after)) :
    after.head? = some (.resolving reference) := by
  obtain ⟨-, behind, -⟩ := List.isChain_append.1 announced.neighbours
  cases after with
  | nil => cases announced.closed _ List.getLast?_concat
  | cons next after =>
    have lookup := (List.isChain_cons_cons.1 behind).1
    rw [List.head?_cons, LogEvent.eq_of_resolved? lookup]

end Split

end Announced

namespace World

variable (world : World) (decoders : Decoders)

/-- Of what a step leaves, only its line and its lookup matter to one who passes over what the world
is asked. -/
theorem filterMap_loggedAt {α : Type} {pick : LogEvent → Option α}
    (reading : ∀ format path, pick (.reading format path) = none)
    (describing : ∀ role, pick (.describing role) = none) (debug : Bool) (taken : Step) :
    (world.loggedAt decoders debug taken).filterMap pick =
      List.filterMap pick ((if debug then [.step taken] else []) ++
        taken.leaf?.toList.map fun leaf => .resolving leaf.reference) := by
  cases taken with
  | apply op left right place? => rfl
  | lookup reference place? =>
    have none : (world.details decoders reference).filterMap pick = [] :=
      List.filterMap_eq_nil_iff.2 (world.forall_mem_details decoders reading describing reference)
    simp [loggedAt, Step.told, said, Step.leaf?, List.filterMap_cons, none]

theorem resolved?_logged (steps : List Step) :
    (world.logged decoders false steps).filterMap LogEvent.resolved? =
      (steps.filterMap Step.leaf?).map (·.reference) := by
  induction steps with
  | nil => rfl
  | cons taken steps ih =>
    rw [logged, List.flatMap_cons, List.filterMap_append, ← logged, ih,
      world.filterMap_loggedAt decoders (fun _ _ => rfl) (fun _ => rfl)]
    cases taken <;> rfl

theorem leaf?_logged (steps : List Step) :
    (world.logged decoders true steps).filterMap LogEvent.leaf? = steps.filterMap Step.leaf? := by
  induction steps with
  | nil => rfl
  | cons taken steps ih =>
    rw [logged, List.flatMap_cons, List.filterMap_append, ← logged, ih,
      world.filterMap_loggedAt decoders (fun _ _ => rfl) (fun _ => rfl)]
    cases taken <;> rfl

theorem filter_logged (steps : List Step) :
    (world.logged decoders true steps).filter (·.target ≠ "permcalc_core::evaluator::trace") =
      world.logged decoders false steps := by
  have quiet : ∀ taken : Step, ∀ event ∈ taken.told (world.said decoders),
      decide (event.target ≠ "permcalc_core::evaluator::trace") = true := by
    intro taken
    cases taken with
    | apply op left right place? => simp [Step.told]
    | lookup reference place? =>
      exact List.forall_mem_cons.2 ⟨rfl,
        world.forall_mem_details decoders (fun _ _ => rfl) (fun _ => rfl) reference⟩
  rw [logged, List.filter_flatMap]
  refine congrArg (steps.flatMap ·) (funext fun taken => ?_)
  exact List.filter_eq_self.2 (quiet taken)

end World
end RoleAlgebra
