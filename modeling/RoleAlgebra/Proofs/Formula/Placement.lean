import RoleAlgebra.Proofs.Parser.Places

/-!
The places of formulas that are put together by hand. Their leaves may be placed in any order, over
each other, in several texts or not at all, and even then joining places is taking the first start
and the last end of all leaves, in the text of the leftmost (`Location.Spans.join`). A formula is
planned first (`Plan`), to say of its leaves where they were asked to be.
-/

namespace RoleAlgebra

theorem foldl_append_cons {op : Nat → Nat → Nat} [Std.Associative op] (x y : Nat)
    (xs ys : List Nat) : (xs ++ y :: ys).foldl op x = op (xs.foldl op x) (ys.foldl op y) := by
  rw [List.foldl_append, List.foldl_cons, List.foldl_assoc]

theorem min?_append {xs ys : List Nat} {x y : Nat} (first : xs.min? = some x)
    (second : ys.min? = some y) : (xs ++ ys).min? = some (min x y) := by
  match xs, ys, first, second with
  | a :: xs, b :: ys, rfl, rfl => exact congrArg some (foldl_append_cons a b xs ys)

theorem max?_append {xs ys : List Nat} {x y : Nat} (first : xs.max? = some x)
    (second : ys.max? = some y) : (xs ++ ys).max? = some (max x y) := by
  match xs, ys, first, second with
  | a :: xs, b :: ys, rfl, rfl => exact congrArg some (foldl_append_cons a b xs ys)

namespace Location

structure Spans (place : Location) (places : List Location) : Prop where
  text : places.head?.map (·.text) = some place.text
  start : (places.map (·.start)).min? = some place.start
  stop : (places.map (·.stop)).max? = some place.stop

theorem spans_single (place : Location) : place.Spans [place] := ⟨rfl, rfl, rfl⟩

theorem Spans.join {here there : Location} {places places' : List Location}
    (first : here.Spans places) (second : there.Spans places') :
    (here.join there).Spans (places ++ places') := by
  refine ⟨?_, ?_, ?_⟩
  · obtain ⟨leftmost, head, same⟩ := Option.map_eq_some_iff.1 first.text
    rw [List.head?_append, head, text_join, ← same]
    rfl
  · rw [List.map_append, start_join]
    exact min?_append first.start second.start
  · rw [List.map_append, stop_join]
    exact max?_append first.stop second.stop

theorem snippet?_eq_some_iff {place : Location} {part : String} :
    place.snippet? = some part ↔
      Text.Part place.text.toList place.start place.stop part.toList :=
  Text.slice?_eq_some_iff

theorem snippet?_eq_none_iff {place : Location} :
    place.snippet? = none ↔
      ¬ (Text.IsBoundary place.text place.start ∧ Text.IsBoundary place.text place.stop) := by
  have forward : place.start ≤ place.stop := Nat.le_add_right _ _
  rw [snippet?, Option.eq_none_iff_forall_ne_some, ← not_exists, Text.exists_slice?_iff]
  exact not_congr (and_iff_right forward)

end Location

theorem Formula.joinPlaces_eq_some_iff {here? there? : Option Location} {place : Location} :
    joinPlaces here? there? = some place ↔
      ∃ here there, here? = some here ∧ there? = some there ∧ here.join there = place := by
  cases here? <;> cases there? <;> simp [joinPlaces]

/-- Where a leaf is asked to be. The range may be the wrong way round, begin or end inside a
character, or go beyond its text. -/
structure Range where
  text : String
  start : Nat
  stop : Nat
  deriving DecidableEq, Repr

def Range.place (range : Range) : Location := .between range.text range.start range.stop

/-- How a formula is put together: from references, each with a range or without one, by operators.
-/
inductive Plan where
  | ref (reference : Reference) (range? : Option Range)
  | apply (op : Operator) (left right : Plan)
  deriving DecidableEq, Repr

namespace Plan

def build : Plan → Formula
  | ref reference none => .ref reference none
  | ref reference (some range) => (Formula.ref reference none).withPlace range.place
  | apply op left right => .combine op left.build right.build

def ranges : Plan → List (Option Range)
  | ref _ range? => [range?]
  | apply _ left right => left.ranges ++ right.ranges

def parts : Plan → List Plan
  | ref reference range? => [ref reference range?]
  | apply op left right => apply op left right :: (left.parts ++ right.parts)

theorem subformulas_build (plan : Plan) : plan.build.subformulas = plan.parts.map build := by
  induction plan with
  | ref reference range? => cases range? <;> rfl
  | apply op left right leftIh rightIh =>
    rw [parts, List.map_cons, List.map_append, ← leftIh, ← rightIh]
    rfl

theorem place?_build_ref (reference : Reference) (range? : Option Range) :
    (ref reference range?).build.place? = range?.map Range.place := by
  cases range? <;> rfl

theorem exists_place_iff {plan : Plan} :
    (∃ place, plan.build.place? = some place) ↔
      ∀ range? ∈ plan.ranges, ∃ range, range? = some range := by
  induction plan with
  | ref reference range? =>
    rw [place?_build_ref, ranges, List.forall_mem_singleton]
    cases range? <;> simp
  | apply op left right leftIh rightIh =>
    rw [ranges, List.forall_mem_append, ← leftIh, ← rightIh]
    simp only [build, Formula.place?_combine, Formula.joinPlaces_eq_some_iff]
    constructor
    · rintro ⟨_, here, there, left, right, -⟩
      exact ⟨⟨here, left⟩, there, right⟩
    · rintro ⟨⟨here, left⟩, there, right⟩
      exact ⟨_, here, there, left, right, rfl⟩

/-- Whatever the shape of a plan, its formula is placed over the ranges of all its leaves. -/
theorem spans_of_place? {plan : Plan} {place : Location}
    (placed : plan.build.place? = some place) :
    ∃ ranges : List Range, plan.ranges = ranges.map some ∧
      place.Spans (ranges.map Range.place) := by
  induction plan generalizing place with
  | ref reference range? =>
    rw [place?_build_ref] at placed
    obtain ⟨range, rfl, rfl⟩ := Option.map_eq_some_iff.1 placed
    exact ⟨[range], rfl, Location.spans_single _⟩
  | apply op left right leftIh rightIh =>
    obtain ⟨here, there, leftPlace, rightPlace, rfl⟩ := Formula.joinPlaces_eq_some_iff.1 placed
    obtain ⟨first, leftRanges, leftSpans⟩ := leftIh leftPlace
    obtain ⟨second, rightRanges, rightSpans⟩ := rightIh rightPlace
    refine ⟨first ++ second, ?_, ?_⟩
    · rw [ranges, leftRanges, rightRanges, List.map_append]
    · rw [List.map_append]
      exact leftSpans.join rightSpans

end Plan

theorem Location.Spans.of_ranges {place : Location} {ranges : List Range}
    (spans : place.Spans (ranges.map Range.place)) :
    ranges.head?.map (·.text) = some place.text ∧
      (ranges.map (·.start)).min? = some place.start ∧
      (ranges.map fun range => max range.start range.stop).max? = some place.stop := by
  obtain ⟨text, start, stop⟩ := spans
  rw [List.head?_map, Option.map_map] at text
  rw [List.map_map] at start stop
  have stops : Location.stop ∘ Range.place = fun range => max range.start range.stop :=
    funext fun range => stop_between range.text range.start range.stop
  rw [stops] at stop
  exact ⟨text, start, stop⟩

/-- Every node of a formula put together by hand has a place exactly if all its leaves have one. It
then goes from the first start to the last end of the ranges given for these, in the text of the
leftmost; its end is within any limit that the ranges keep to; and what it shows is the part of that
text between its ends, if both are boundaries there. -/
theorem build_places (plan : Plan) :
    plan.build.subformulas = plan.parts.map Plan.build ∧
    ∀ part ∈ plan.parts,
      ((∃ place, part.build.place? = some place) ↔
        ∀ range? ∈ part.ranges, ∃ range, range? = some range) ∧
      ∀ place, part.build.place? = some place →
        ∃ ranges : List Range, part.ranges = ranges.map some ∧
          ranges.head?.map (·.text) = some place.text ∧
          (ranges.map (·.start)).min? = some place.start ∧
          (ranges.map fun range => max range.start range.stop).max? = some place.stop ∧
          (∀ limit, (∀ range ∈ ranges, range.start ≤ limit ∧ range.stop ≤ limit) →
            place.start + place.length ≤ limit) ∧
          (∀ shown : String, place.snippet? = some shown ↔
            Text.Part place.text.toList place.start place.stop shown.toList) ∧
          (place.snippet? = none ↔ ¬ (Text.IsBoundary place.text place.start ∧
            Text.IsBoundary place.text place.stop)) := by
  refine ⟨plan.subformulas_build, ?_⟩
  intro part _
  refine ⟨Plan.exists_place_iff, ?_⟩
  intro place placed
  obtain ⟨ranges, all, spans⟩ := Plan.spans_of_place? placed
  obtain ⟨text, start, stop⟩ := spans.of_ranges
  refine ⟨ranges, all, text, start, stop, ?_, fun _ => Location.snippet?_eq_some_iff,
    Location.snippet?_eq_none_iff⟩
  intro limit within
  obtain ⟨range, member, last⟩ := List.mem_map.1 (List.max?_eq_some_iff.1 stop).1
  obtain ⟨starts, stops⟩ := within range member
  calc place.start + place.length = max range.start range.stop := last.symm
    _ ≤ limit := Nat.max_le.2 ⟨starts, stops⟩

theorem build_places_scattered :
    let inner : Plan := .apply .and (.ref ⟨.named, "b"⟩ (some ⟨"xyz", 0, 2⟩))
      (.ref ⟨.file, "c"⟩ (some ⟨"", 1, 0⟩))
    let outer : Plan := .apply .diff (.ref ⟨.named, "a"⟩ (some ⟨"äbc", 3, 1⟩)) inner
    let plan : Plan := .apply .or outer (.ref ⟨.named, "d"⟩ none)
    let place : Location := ⟨"äbc", 0, 3⟩
    outer ∈ plan.parts ∧ outer.build.place? = some place ∧ place.snippet? = some "äb" ∧
      (∃ ranges : List Range, outer.ranges = ranges.map some ∧
        (ranges.map fun range => max range.start range.stop).max? = some place.stop) ∧
      ¬ ∃ place, plan.build.place? = some place := by
  intro inner outer plan place
  obtain ⟨-, nodes⟩ := build_places plan
  have member : outer ∈ plan.parts := by decide
  have placed : outer.build.place? = some place := rfl
  obtain ⟨ranges, all, -, -, stop, -, shows, -⟩ := (nodes outer member).2 place placed
  have part : Text.Part place.text.toList 0 3 ['ä', 'b'] :=
    ⟨[], ['c'], by decide, by decide, by decide⟩
  refine ⟨member, placed, (shows "äb").2 part, ⟨ranges, all, stop⟩, ?_⟩
  intro whole
  have everywhere := (nodes plan (by decide)).1.1 whole
  obtain ⟨range, absent⟩ := everywhere none (by decide)
  cases absent

end RoleAlgebra
